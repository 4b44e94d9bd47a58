import Kousei.Rule.Streak
import Mathlib.Data.List.Chain
import Mathlib.Data.List.DropRight

/-! # Histories of a scanner

    A scanner is fed with elements and reset, in any order and however often.
    It remembers no more than the latest element with its key and one
    number, and still these can be told from its whole history: the element
    is the latest one since the last reset, and the number is the length of
    the longest streak that ends with it (`EndsInStreak`).

    One feed keeps this (`Holds.feed`), and a reset begins with an empty history,
    so it is so after every history (`holds_after`).  What a feed gives back is
    read off the number (`Holds.given`); keys may be anything that can be
    compared, so one that stands for no key at all is a key like the others. -/

namespace Kousei.Streak

variable {α κ : Type}

/-! ## Histories -/

/-- An element that a scanner is fed with. -/
structure Feed (α κ : Type) where
  element : α
  key : κ
  isLinked : Bool

/-- What is done with a scanner. -/
inductive Use (α κ : Type) where
  | feed (f : Feed α κ)
  | reset

def Use.feed? : Use α κ → Option (Feed α κ)
  | feed f => some f
  | reset => none

/-- The feeds since the last reset. -/
def sinceReset (uses : List (Use α κ)) : List (Feed α κ) :=
  (uses.rtakeWhile fun u => u.feed?.isSome).filterMap Use.feed?

@[simp] theorem sinceReset_feed (uses : List (Use α κ)) (f : Feed α κ) :
    sinceReset (uses ++ [.feed f]) = sinceReset uses ++ [f] := by
  rw [sinceReset, List.rtakeWhile_concat_pos _ _ _ rfl, List.filterMap_append]
  rfl

@[simp] theorem sinceReset_reset (uses : List (Use α κ)) : sinceReset (uses ++ [.reset]) = [] := by
  rw [sinceReset, List.rtakeWhile_concat_neg _ _ _ Bool.false_ne_true, List.filterMap_nil]

/-! ## Streaks at the end of a row of feeds -/

/-- A feed goes on with the one before it: it is linked and has the same key. -/
def Feed.Follows (f g : Feed α κ) : Prop := g.isLinked = true ∧ g.key = f.key

/-- The longest row of feeds at the end, each of which but the first goes on with the one
    before it, has length `n`. -/
structure EndsInStreak (fs : List (Feed α κ)) (n : Nat) : Prop where
  reached : ∃ t, t <:+ fs ∧ t.IsChain Feed.Follows ∧ t.length = n
  greatest : ∀ t, t <:+ fs → t.IsChain Feed.Follows → t.length ≤ n

variable {fs t : List (Feed α κ)} {f g : Feed α κ} {n : Nat}

theorem endsInStreak_nil : EndsInStreak ([] : List (Feed α κ)) 0 where
  reached := ⟨[], List.nil_suffix, .nil, rfl⟩
  greatest := by
    intro t ht _
    rw [List.suffix_nil.1 ht, List.length_nil]

theorem isChain_concat_iff : (t ++ [g]).IsChain Feed.Follows ↔
    t.IsChain Feed.Follows ∧ ∀ f ∈ t.getLast?, f.Follows g := by
  simp [List.isChain_append]

/-- The last feed of a row at the end is the last feed. -/
theorem mem_getLast?_of_suffix (h : t <:+ fs) (hf : f ∈ t.getLast?) : f ∈ fs.getLast? := by
  obtain ⟨before, rfl⟩ := h
  rw [List.getLast?_append, Option.mem_def.1 hf]
  rfl

/-- There is a streak at the end of every row of feeds. -/
theorem EndsInStreak.pos (h : EndsInStreak fs n) (hf : f ∈ fs.getLast?) : 0 < n := by
  obtain ⟨before, rfl⟩ := List.getLast?_eq_some_iff.1 hf
  exact h.greatest [f] (List.suffix_append _ _) (.singleton f)

/-- A streak goes on with a feed that goes on with the one before it. -/
theorem EndsInStreak.follows (h : EndsInStreak fs n) (hf : f ∈ fs.getLast?) (hg : f.Follows g) :
    EndsInStreak (fs ++ [g]) (n + 1) where
  reached := by
    obtain ⟨t, ht, hchain, rfl⟩ := h.reached
    refine ⟨t ++ [g], List.suffix_concat_iff.2 (.inr ⟨t, rfl, ht⟩), ?_, List.length_append⟩
    refine isChain_concat_iff.2 ⟨hchain, ?_⟩
    -- If the streak has a last feed, it is the last one of all.
    intro f' hf'
    have hsame := mem_getLast?_of_suffix ht hf'
    rw [Option.mem_def.1 hf] at hsame
    cases hsame
    exact hg
  greatest := by
    intro t ht hchain
    rcases List.suffix_concat_iff.1 ht with rfl | ⟨t, rfl, hsuffix⟩
    · exact Nat.zero_le _
    · rw [List.length_append]
      exact Nat.succ_le_succ (h.greatest t hsuffix (isChain_concat_iff.1 hchain).1)

/-- Every other feed begins a streak. -/
theorem endsInStreak_one (hg : ∀ f ∈ fs.getLast?, ¬ f.Follows g) : EndsInStreak (fs ++ [g]) 1 where
  reached := ⟨[g], List.suffix_append _ _, .singleton g, rfl⟩
  greatest := by
    intro t ht hchain
    rcases List.suffix_concat_iff.1 ht with rfl | ⟨t, rfl, hsuffix⟩
    · exact Nat.zero_le _
    · -- A feed before it in the streak would be one that it goes on with.
      cases hlast : t.getLast? with
      | none => rw [List.getLast?_eq_none_iff.1 hlast, List.nil_append, List.length_singleton]
      | some f =>
        have hfollows := (isChain_concat_iff.1 hchain).2 f hlast
        exact absurd hfollows (hg f (mem_getLast?_of_suffix hsuffix hlast))

/-! ## What a scanner holds -/

/-- A scanner holds the latest of several feeds and the length of the streak there. -/
structure Holds (s : Streak α κ) (fs : List (Feed α κ)) : Prop where
  last : s.last = fs.getLast?.map fun f => (f.element, f.key)
  length : EndsInStreak fs s.length

theorem holds_nil : Holds ({} : Streak α κ) [] where
  last := rfl
  length := endsInStreak_nil

variable [DecidableEq κ] {s : Streak α κ}

/-- What is done with a scanner gives this back, and leaves this scanner. -/
def use (s : Streak α κ) : Use α κ → Option α × Streak α κ
  | .feed f => s.feed f.element f.key f.isLinked
  | .reset => (none, s.reset)

/-- The scanner after a history. -/
def after (uses : List (Use α κ)) : Streak α κ := uses.foldl (fun s u => (s.use u).2) {}

theorem after_concat (uses : List (Use α κ)) (u : Use α κ) :
    after (uses ++ [u]) = ((after uses).use u).2 := by
  rw [after, List.foldl_append]
  rfl

/-- What a feed does with a scanner: it begins a streak or goes on with one. -/
theorem Holds.feed_cases (h : s.Holds fs) (g : Feed α κ) :
    (∃ f ∈ fs.getLast?, f.Follows g ∧
      s.use (.feed g) = (some f.element, ⟨some (g.element, g.key), s.length + 1⟩)) ∨
    (∀ f ∈ fs.getLast?, ¬ f.Follows g) ∧
      s.use (.feed g) = (none, ⟨some (g.element, g.key), 1⟩) := by
  obtain ⟨last, length⟩ := s
  obtain ⟨hlast, -⟩ := h
  cases hf : fs.getLast? with
  | none =>
    -- The first feed since a reset goes on with nothing, linked or not.
    rw [hf] at hlast
    obtain rfl : last = none := hlast
    exact .inr ⟨nofun, rfl⟩
  | some f =>
    rw [hf] at hlast
    obtain rfl : last = some (f.element, f.key) := hlast
    by_cases hg : f.Follows g
    · have hgoes : (g.isLinked && f.key == g.key) = true := by
        simp [hg.1, hg.2]
      refine .inl ⟨f, rfl, hg, ?_⟩
      simp only [use, Streak.feed, hgoes, if_true]
    · have hstays : (g.isLinked && f.key == g.key) = false := by
        by_contra hgoes
        simp only [Bool.not_eq_false, Bool.and_eq_true, beq_iff_eq] at hgoes
        exact hg ⟨hgoes.1, hgoes.2.symm⟩
      refine .inr ⟨?_, ?_⟩
      · rintro f' ⟨⟩
        exact hg
      · simp only [use, Streak.feed, hstays, Bool.false_eq_true, if_false]

/-- A feed keeps what a scanner holds up to date. -/
theorem Holds.feed (h : s.Holds fs) (g : Feed α κ) : (s.use (.feed g)).2.Holds (fs ++ [g]) := by
  rcases h.feed_cases g with ⟨f, hf, hg, huse⟩ | ⟨hg, huse⟩
  · rw [huse]
    exact ⟨by rw [List.getLast?_concat]; rfl, h.length.follows hf hg⟩
  · rw [huse]
    exact ⟨by rw [List.getLast?_concat]; rfl, endsInStreak_one hg⟩

/-- A feed gives the element before it back exactly if the two are in a streak. -/
theorem Holds.given (h : s.Holds fs) (g : Feed α κ) :
    ((s.use (.feed g)).1.isSome = true ↔ 2 ≤ (s.use (.feed g)).2.length) ∧
    (s.use (.feed g)).1 =
      if 2 ≤ (s.use (.feed g)).2.length then fs.getLast?.map Feed.element else none := by
  rcases h.feed_cases g with ⟨f, hf, hg, huse⟩ | ⟨hg, huse⟩
  · have htwo : 2 ≤ s.length + 1 := Nat.succ_le_succ (h.length.pos hf)
    simp only [huse, htwo, if_true, Option.isSome_some, Option.mem_def.1 hf, Option.map_some,
      and_self]
  · simp [huse]

/-- After every history a scanner holds the latest feed since the last reset. -/
theorem holds_after (uses : List (Use α κ)) : (after uses).Holds (sinceReset uses) := by
  -- By the last thing that was done.
  induction uses using List.reverseRecOn with
  | nil => exact holds_nil
  | append_singleton uses u ih =>
    rw [after_concat]
    cases u with
    | feed f =>
      rw [sinceReset_feed]
      exact ih.feed f
    | reset =>
      rw [sinceReset_reset]
      exact holds_nil

/-- **Streaks by histories.**  After every history of feeds and resets the number of a
    scanner is the length of the longest streak at the end of the feeds since the last
    reset, and its element and key are those of the latest of them.  If there is none it is
    as new.  A feed gives the element that was fed before it back exactly if the number
    after it is two at least, and nothing otherwise. -/
theorem streak_of_history (uses : List (Use α κ)) :
    EndsInStreak (sinceReset uses) (after uses).length ∧
    (after uses).last = (sinceReset uses).getLast?.map (fun f => (f.element, f.key)) ∧
    (sinceReset uses = [] → after uses = {}) ∧
    ∀ g : Feed α κ, ((after uses).use (.feed g)).2 = after (uses ++ [.feed g]) ∧
      (((after uses).use (.feed g)).1.isSome = true ↔ 2 ≤ (after (uses ++ [.feed g])).length) ∧
      ((after uses).use (.feed g)).1 =
        if 2 ≤ (after (uses ++ [.feed g])).length then
          (sinceReset uses).getLast?.map Feed.element
        else none := by
  have hholds := holds_after uses
  refine ⟨hholds.length, hholds.last, ?_, ?_⟩
  · intro hnone
    obtain ⟨hlast, hlength⟩ := hholds
    rw [hnone] at hlast hlength
    obtain ⟨t, ht, -, hzero⟩ := hlength.reached
    rw [List.suffix_nil.1 ht] at hzero
    generalize after uses = s at hlast hzero
    obtain ⟨last, length⟩ := s
    cases hlast
    cases hzero
    rfl
  · intro g
    rw [after_concat]
    exact ⟨rfl, hholds.given g⟩

/-- Two elements without keys are in a streak, until one comes that is not linked. -/
example : ((after [.feed ⟨'a', none, true⟩, .feed ⟨'b', none, true⟩] : Streak Char (Option Nat)).length,
    (after [.feed ⟨'a', none, true⟩, .feed ⟨'b', none, false⟩] : Streak Char (Option Nat)).length) =
      (2, 1) := by decide

end Kousei.Streak
