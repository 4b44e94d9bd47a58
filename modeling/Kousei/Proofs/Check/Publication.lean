import Kousei.Check.Document
import Mathlib.Data.List.Induction
import Mathlib.Data.List.TakeWhile

/-! # Publication of checks

    Checks of documents begin and end in any order, and documents are closed
    while they are being checked.  A run of such steps starts with no
    document open.  The number of a document is how often a check of it has
    begun since it was last closed (`number_run`), so closing a document
    makes its numbers begin again.

    A check that ends may be published if its number is the current one.
    This keeps a check from being published after a later one has begun, but
    only as long as the document is not closed in between.  When it is, a
    later check may have the same number, and then the old one is published
    in its place: `published_iff` tells when, and `published_stale` is the
    shortest such run. -/

namespace Kousei

namespace Generations

variable {g : Generations} {key other : String}

/-! ## Numbers of documents -/

/-- The number of the latest check of a document; zero if none has begun. -/
def number (g : Generations) (key : String) : Nat := (g.get? key).getD 0

theorem get?_forget_self : (g.forget key).get? key = none := by
  rw [get?, forget, List.lookup_eq_none_iff]
  intro entry hentry
  have hne : entry.1 ≠ key := bne_iff_ne.1 (List.mem_filter.1 hentry).2
  exact bne_iff_ne.2 fun h => hne h.symm

theorem get?_forget_of_ne (h : other ≠ key) : (g.forget other).get? key = g.get? key := by
  rw [get?, get?, forget]
  induction g.current with
  | nil => rfl
  | cons entry r ih =>
    obtain ⟨k, n⟩ := entry
    -- Only entries of the other document are taken out.
    by_cases hk : k = other
    · have hkey : (key == k) = false := by
        rw [beq_eq_false_iff_ne, hk]
        exact fun heq => h heq.symm
      rw [List.filter_cons_of_neg (by simp [hk]), List.lookup_cons, hkey]
      exact ih
    · rw [List.filter_cons_of_pos (by simpa using hk), List.lookup_cons, List.lookup_cons]
      split
      · rfl
      · exact ih

theorem number_forget_self : (g.forget key).number key = 0 := by
  rw [number, get?_forget_self]
  rfl

theorem number_forget_of_ne (h : other ≠ key) : (g.forget other).number key = g.number key := by
  rw [number, get?_forget_of_ne h]
  rfl

theorem number_begin_self : (g.begin key).2.number key = g.number key + 1 := by
  rw [number, get?]
  exact congrArg (Option.getD · 0) List.lookup_cons_self

theorem number_begin_of_ne (h : other ≠ key) : (g.begin other).2.number key = g.number key := by
  have hkey : (key == other) = false := beq_eq_false_iff_ne.2 fun heq => h heq.symm
  have hget : (g.begin other).2.get? key = (g.forget other).get? key := by
    rw [get?, get?, Generations.begin, List.lookup_cons, hkey]
  rw [number, hget, get?_forget_of_ne h]
  rfl

/-- A number that was given to a check is current if it is that of the
    document. -/
theorem isCurrent_iff {n : Nat} (hn : 0 < n) : g.isCurrent key n = true ↔ g.number key = n := by
  unfold isCurrent number
  cases g.get? key with
  | none =>
    show false = true ↔ 0 = n
    constructor
    · intro h; cases h
    · intro h; omega
  | some m =>
    show ((m : Int) == (n : Int)) = true ↔ m = n
    rw [beq_iff_eq]
    omega

end Generations

namespace Check

/-! ## Steps -/

/-- The checks of documents in one context. -/
structure Desk where
  context : Context
  /-- The checks that have begun, in their order. -/
  begun : List Pass := []
  /-- The checks that have ended, by their place among those that have begun,
      and whether each was published. -/
  ended : List (Nat × Bool) := []

inductive Step where
  /-- A check of the document begins. -/
  | begin (key : String)
  /-- The check that began as the `i`-th, counted from zero, ends. -/
  | finish (i : Nat)
  /-- The document is closed. -/
  | forget (key : String)
  deriving DecidableEq, Repr

/-- The number of checks that begin. -/
def begins (steps : List Step) : Nat :=
  steps.countP fun s => match s with
    | .begin _ => true
    | .finish _ | .forget _ => false

/-- How often a check of the document begins after it is last closed. -/
def beginsSinceForget (key : String) (steps : List Step) : Nat :=
  (steps.reverse.takeWhile (· != .forget key)).count (.begin key)

namespace Desk

/-- A desk with no check and no open document. -/
def start (c : Context) : Desk where
  context := { c with generations := {} }

def begin (d : Desk) (key : String) : Desk :=
  match (beginPass key).onContext d.context with
  | (.ok p, c) => { d with context := c, begun := d.begun ++ [p] }
  | (.error _, c) => { d with context := c }

/-- The end of a check that has begun and has not ended yet. -/
def finish (d : Desk) (i : Nat) : Desk :=
  match d.begun[i]?, d.ended.lookup i with
  | some p, none =>
    match (mayPublish p).onContext d.context with
    | (.ok published, c) => { d with context := c, ended := (i, published) :: d.ended }
    | (.error _, c) => { d with context := c }
  | _, _ => d

def forget (d : Desk) (key : String) : Desk :=
  { d with context := { d.context with generations := d.context.generations.forget key } }

def step (d : Desk) : Step → Desk
  | .begin key => d.begin key
  | .finish i => d.finish i
  | .forget key => d.forget key

def run (d : Desk) (steps : List Step) : Desk := steps.foldl step d

/-- The number of a document. -/
def number (d : Desk) (key : String) : Nat := d.context.generations.number key

/-! ## One step -/

variable {d : Desk} {i : Nat} {key : String} {s : Step} {steps : List Step}

/-- A check ends with the answer to whether its number is the current one. -/
theorem finish_eq {p : Pass} (hbegun : d.begun[i]? = some p) (hended : d.ended.lookup i = none) :
    d.finish i =
      { d with
        ended := (i, d.context.generations.isCurrent p.key p.generation) :: d.ended } := by
  unfold finish
  rw [hbegun, hended]
  rfl

theorem finish_cases (d : Desk) (i : Nat) :
    d.finish i = d ∨ ∃ published, i < d.begun.length ∧ d.ended.lookup i = none ∧
      d.finish i = { d with ended := (i, published) :: d.ended } := by
  cases hbegun : d.begun[i]? with
  | none =>
    left
    unfold finish
    rw [hbegun]
  | some p =>
    cases hended : d.ended.lookup i with
    | some b =>
      left
      unfold finish
      rw [hbegun, hended]
    | none =>
      right
      obtain ⟨hlt, -⟩ := List.getElem?_eq_some_iff.1 hbegun
      exact ⟨_, hlt, rfl, finish_eq hbegun hended⟩

/-- The end of a check changes nothing but what has ended. -/
theorem context_finish (d : Desk) (i : Nat) : (d.finish i).context = d.context := by
  rcases finish_cases d i with h | ⟨published, -, -, h⟩
  · rw [h]
  · rw [h]

theorem begun_finish (d : Desk) (i : Nat) : (d.finish i).begun = d.begun := by
  rcases finish_cases d i with h | ⟨published, -, -, h⟩
  · rw [h]
  · rw [h]

/-- The number of a document goes on by one when a check of it begins, and
    begins again when it is closed. -/
theorem number_step (d : Desk) (s : Step) (key : String) :
    (d.step s).number key =
      if s = .forget key then 0 else d.number key + if s = .begin key then 1 else 0 := by
  cases s with
  | begin k =>
    rw [if_neg (by simp)]
    show (d.context.generations.begin k).2.number key = _
    by_cases hk : k = key
    · rw [hk, if_pos rfl, Generations.number_begin_self]
      rfl
    · rw [if_neg (by simpa using hk), Generations.number_begin_of_ne hk]
      rfl
  | finish i =>
    rw [if_neg (by simp), if_neg (by simp), Nat.add_zero]
    show (d.finish i).context.generations.number key = _
    rw [context_finish]
    rfl
  | forget k =>
    show (d.context.generations.forget k).number key = _
    by_cases hk : k = key
    · rw [hk, if_pos rfl, Generations.number_forget_self]
    · rw [if_neg (by simpa using hk), if_neg (by simp), Generations.number_forget_of_ne hk]
      rfl

/-- A check that has begun keeps its place. -/
theorem begun_step (d : Desk) (s : Step) : d.begun <+: (d.step s).begun := by
  cases s with
  | begin k => exact List.prefix_append ..
  | finish i =>
    have hsame : d.begun ++ [] = (d.finish i).begun := by rw [begun_finish, List.append_nil]
    exact ⟨[], hsame⟩
  | forget k => exact List.prefix_rfl

theorem length_begun_step (d : Desk) (s : Step) :
    (d.step s).begun.length = d.begun.length + begins [s] := by
  cases s with
  | begin k => exact List.length_append
  | finish i => exact congrArg List.length (begun_finish d i)
  | forget k => rfl

/-- Only checks that have begun have ended. -/
def EndedBegun (d : Desk) : Prop := ∀ i, d.begun.length ≤ i → d.ended.lookup i = none

theorem EndedBegun.step (h : d.EndedBegun) (s : Step) : (d.step s).EndedBegun := by
  intro i hi
  have hlen := length_begun_step d s
  cases s with
  | begin k => exact h i (by omega)
  | finish j =>
    have hi' : d.begun.length ≤ i := by omega
    rcases finish_cases d j with hj | ⟨published, hlt, -, hj⟩
    · rw [Desk.step, hj]
      exact h i hi'
    · have hne : i ≠ j := by omega
      rw [Desk.step, hj, List.lookup_cons, beq_eq_false_iff_ne.2 hne]
      exact h i hi'
  | forget k => exact h i hi

/-- A step that does not end a check leaves its outcome alone, and so does one
    that would end it once more. -/
theorem lookup_ended_step (h : s ≠ .finish i ∨ (d.ended.lookup i).isSome) :
    (d.step s).ended.lookup i = d.ended.lookup i := by
  cases s with
  | begin k => rfl
  | finish j =>
    rcases finish_cases d j with hj | ⟨published, -, hnone, hj⟩
    · rw [step, hj]
    · -- The check that ends now had no outcome before, so it is another one.
      have hne : i ≠ j := by
        rintro rfl
        rcases h with h | h
        · exact h rfl
        · rw [hnone] at h
          cases h
      rw [step, hj, List.lookup_cons, beq_eq_false_iff_ne.2 hne]
  | forget k => rfl

/-! ## Whole runs -/

theorem run_append (d : Desk) (steps later : List Step) :
    d.run (steps ++ later) = (d.run steps).run later := List.foldl_append

theorem run_concat (d : Desk) (steps : List Step) (s : Step) :
    d.run (steps ++ [s]) = (d.run steps).step s := run_append d steps [s]

theorem beginsSinceForget_concat (key : String) (steps : List Step) (s : Step) :
    beginsSinceForget key (steps ++ [s]) =
      if s = .forget key then 0
      else beginsSinceForget key steps + if s = .begin key then 1 else 0 := by
  unfold beginsSinceForget
  rw [List.reverse_append, List.reverse_singleton, List.singleton_append, List.takeWhile_cons]
  by_cases hforget : s = .forget key
  · rw [if_pos hforget, hforget]
    simp
  · rw [if_neg hforget, if_pos (bne_iff_ne.2 hforget), List.count_cons]
    simp only [beq_iff_eq]

/-- The number of a document counts the checks of it that have begun since it
    was last closed; before it is closed, it goes on from where it was. -/
theorem number_run (d : Desk) (steps : List Step) (key : String) :
    (d.run steps).number key =
      beginsSinceForget key steps + if .forget key ∈ steps then 0 else d.number key := by
  -- By the last step, which is the one that changes both sides.
  induction steps using List.reverseRecOn with
  | nil => exact (Nat.zero_add _).symm
  | append_singleton steps s ih =>
    rw [run_concat, number_step, ih, beginsSinceForget_concat]
    by_cases hforget : s = .forget key
    · rw [if_pos hforget, if_pos hforget, hforget]
      simp
    · have hmem : Step.forget key ∈ steps ++ [s] ↔ Step.forget key ∈ steps := by
        rw [List.mem_append, List.mem_singleton]
        exact or_iff_left fun h => hforget h.symm
      rw [if_neg hforget, if_neg hforget]
      simp only [hmem]
      omega

/-- Without the document being closed, every check of it counts. -/
theorem beginsSinceForget_of_not_mem (h : Step.forget key ∉ steps) :
    beginsSinceForget key steps = steps.count (.begin key) := by
  have hall : ∀ s ∈ steps.reverse, (s != .forget key) = true := by
    intro s hs
    rw [bne_iff_ne]
    rintro rfl
    exact h (List.mem_reverse.1 hs)
  rw [beginsSinceForget, List.takeWhile_eq_self_iff.2 hall, List.count_reverse]

theorem mem_of_beginsSinceForget_pos (h : 0 < beginsSinceForget key steps) :
    Step.begin key ∈ steps := by
  have hmem := List.count_pos_iff.1 h
  exact List.mem_reverse.1 ((List.takeWhile_sublist _).mem hmem)

theorem begun_run (d : Desk) (steps : List Step) : d.begun <+: (d.run steps).begun := by
  induction steps generalizing d with
  | nil => exact List.prefix_rfl
  | cons s r ih => exact (begun_step d s).trans (ih (d.step s))

theorem length_begun_run (d : Desk) (steps : List Step) :
    (d.run steps).begun.length = d.begun.length + begins steps := by
  induction steps generalizing d with
  | nil => rfl
  | cons s r ih =>
    have hcons : begins (s :: r) = begins [s] + begins r := by
      unfold begins
      rw [List.countP_cons, List.countP_singleton, Nat.add_comm]
    show ((d.step s).run r).begun.length = _
    rw [ih, length_begun_step, hcons, Nat.add_assoc]

theorem EndedBegun.run (h : d.EndedBegun) (steps : List Step) : (d.run steps).EndedBegun := by
  induction steps generalizing d with
  | nil => exact h
  | cons s r ih => exact ih (h.step s)

/-- A check keeps its outcome, or is still to end, as long as no step ends it. -/
theorem lookup_ended_run (h : Step.finish i ∉ steps ∨ (d.ended.lookup i).isSome) :
    (d.run steps).ended.lookup i = d.ended.lookup i := by
  induction steps generalizing d with
  | nil => rfl
  | cons s r ih =>
    have hstep : (d.step s).ended.lookup i = d.ended.lookup i := by
      refine lookup_ended_step (h.imp_left fun hnot => ?_)
      rintro rfl
      exact hnot (List.mem_cons_self ..)
    have hrest := ih (d := d.step s) (by
      rw [hstep]
      exact h.imp_left fun hnot hmem => hnot (List.mem_cons_of_mem s hmem))
    exact hrest.trans hstep

/-! ## What is published -/

variable {between : List Step}

/-- The check has ended and was published. -/
def Published (d : Desk) (i : Nat) : Prop := d.ended.lookup i = some true

instance : Decidable (d.Published i) := inferInstanceAs (Decidable (_ = _))

/-- A check that begins has the next number of its document, and keeps it. -/
theorem begun_pass (d : Desk) (key : String) (between : List Step) :
    ((d.begin key).run between).begun[d.begun.length]? = some ⟨key, d.number key + 1⟩ := by
  have hat : (d.begin key).begun[d.begun.length]? = some ⟨key, d.number key + 1⟩ :=
    List.getElem?_concat_length
  obtain ⟨later, hlater⟩ := begun_run (d.begin key) between
  obtain ⟨hlt, -⟩ := List.getElem?_eq_some_iff.1 hat
  rw [← hlater, List.getElem?_append_left hlt, hat]

/-- It does not end before a step ends it. -/
theorem ended_pass (h : d.EndedBegun) (key : String)
    (hpending : .finish d.begun.length ∉ between) :
    ((d.begin key).run between).ended.lookup d.begun.length = none := by
  rw [lookup_ended_run (.inl hpending)]
  exact h _ (Nat.le_refl _)

theorem published_finish {n : Nat} (hn : 0 < n) (hbegun : d.begun[i]? = some ⟨key, n⟩)
    (hended : d.ended.lookup i = none) : (d.finish i).Published i ↔ d.number key = n := by
  rw [finish_eq hbegun hended, Published, List.lookup_cons_self, Option.some_inj]
  exact Generations.isCurrent_iff hn

/-- Once a check has ended, what follows does not change whether it was
    published. -/
theorem published_run (h : (d.ended.lookup i).isSome) (after : List Step) :
    (d.run after).Published i ↔ d.Published i := by
  unfold Published
  rw [lookup_ended_run (.inr h)]

/-- A check is published if its document has, when it ends, the number that
    the check was given. -/
theorem published_pass (h : d.EndedBegun) (key : String)
    (hpending : .finish d.begun.length ∉ between)
    (after : List Step) :
    ((d.begin key).run (between ++ .finish d.begun.length :: after)).Published d.begun.length ↔
      ((d.begin key).run between).number key = d.number key + 1 := by
  have hbegun := begun_pass d key between
  have hended := ended_pass h key hpending
  have hsome : ((((d.begin key).run between).finish d.begun.length).ended.lookup
      d.begun.length).isSome := by
    rw [finish_eq hbegun hended, List.lookup_cons_self]
    rfl
  rw [run_append]
  exact (published_run hsome after).trans (published_finish (Nat.succ_pos _) hbegun hended)

/-- The number of a document after steps that follow the beginning of a check
    of it. -/
theorem number_pass (d : Desk) (key : String) (between : List Step) :
    ((d.begin key).run between).number key =
      beginsSinceForget key between + if .forget key ∈ between then 0 else d.number key + 1 := by
  have hbegin : (d.begin key).number key = d.number key + 1 := Generations.number_begin_self
  rw [number_run, hbegin]

theorem number_start (c : Context) (before : List Step) (key : String) :
    ((start c).run before).number key = beginsSinceForget key before := by
  have hstart : (start c).number key = 0 := rfl
  rw [number_run, hstart, ite_self, Nat.add_zero]

theorem begun_start (c : Context) (before : List Step) :
    ((start c).run before).begun.length = begins before := by
  rw [length_begun_run]
  exact Nat.zero_add _

theorem endedBegun_start (c : Context) (before : List Step) :
    ((start c).run before).EndedBegun :=
  EndedBegun.run (fun _ _ => rfl) before

end Desk

/-! ## Publication -/

open Desk

/-- The steps of a run in which a check of the document begins after the steps
    `before` and ends after the steps `between`. -/
def stepsOfPass (key : String) (before between after : List Step) : List Step :=
  before ++ .begin key :: (between ++ .finish (begins before) :: after)

/-- **Which checks are published.**  If its document is not closed before it
    ends, a check is published just when no later one has begun.  If it is
    closed, the check is published just when as many checks have begun since
    then as had begun with this one.  So a check is published after a later
    one has begun just when the document is closed and the number of the
    check is given out again. -/
theorem published_iff (c : Context) (key : String) (before between after : List Step)
    (hpending : .finish (begins before) ∉ between) :
    (((start c).run (stepsOfPass key before between after)).Published (begins before) ↔
      if .forget key ∈ between then
        beginsSinceForget key between = beginsSinceForget key before + 1
      else .begin key ∉ between) ∧
    (((start c).run (stepsOfPass key before between after)).Published (begins before) ∧
        .begin key ∈ between ↔
      .forget key ∈ between ∧
        beginsSinceForget key between = beginsSinceForget key before + 1) := by
  have hpass := published_pass (endedBegun_start c before) key
    (by rwa [begun_start c before]) after
  rw [number_pass, number_start, begun_start] at hpass
  have hiff : ((start c).run (stepsOfPass key before between after)).Published (begins before) ↔
      if .forget key ∈ between then
        beginsSinceForget key between = beginsSinceForget key before + 1
      else .begin key ∉ between := by
    rw [stepsOfPass, run_append]
    refine hpass.trans ?_
    by_cases hforget : .forget key ∈ between
    · simp only [hforget, ↓reduceIte, Nat.add_zero]
    · -- The number has gone on from that of the check, by one for each later one.
      simp only [hforget, ↓reduceIte]
      rw [beginsSinceForget_of_not_mem hforget, ← List.count_eq_zero]
      omega
  refine ⟨hiff, ?_⟩
  rw [hiff]
  by_cases hforget : .forget key ∈ between
  · simp only [hforget, ↓reduceIte, true_and, and_iff_left_iff_imp]
    intro hcount
    -- The check itself has a number, so the same number was given to a later one.
    exact mem_of_beginsSinceForget_pos (by omega)
  · simp only [hforget, ↓reduceIte, false_and, iff_false]
    exact fun ⟨hnot, hmem⟩ => hnot hmem

/-- A check that began before its document was closed is published, although
    two checks of the document have begun since. -/
theorem published_iff_of_reopened :
    .finish 2 ∉ [Step.forget "a", .begin "a", .finish 1, .begin "a"] ∧
    ((start {}).run (stepsOfPass "a" [.begin "a", .begin "b", .finish 0]
      [.forget "a", .begin "a", .finish 1, .begin "a"] [])).Published 2 ∧
    .begin "a" ∈ [Step.forget "a", .begin "a", .finish 1, .begin "a"] := by
  have hpending : .finish (begins [.begin "a", .begin "b", .finish 0]) ∉
      [Step.forget "a", .begin "a", .finish 1, .begin "a"] := by decide
  obtain ⟨-, hstale⟩ := published_iff {} "a" [.begin "a", .begin "b", .finish 0]
    [.forget "a", .begin "a", .finish 1, .begin "a"] [] hpending
  exact ⟨hpending, hstale.2 ⟨by decide, by decide⟩⟩

/-- It is not so that a check is published only if no later one has begun:
    closing the document and opening it again gives its number to another. -/
theorem published_stale :
    ¬ ∀ (key : String) (before between after : List Step), .finish (begins before) ∉ between →
      ((start {}).run (stepsOfPass key before between after)).Published (begins before) →
        .begin key ∉ between := by
  intro h
  exact h "a" [] [.forget "a", .begin "a"] [] (by decide) (by decide) (by decide)

end Check

end Kousei
