import Kousei.Proofs.Tree.Grammar

/-! # Uses of the grammars

    Grammars are asked for in several ways: for the grammar of a name or for
    that of a language, with the reason if it cannot be had or without.  The
    source may answer each request as it likes.

    It gets few requests, however: whatever the uses were, no grammar was
    requested twice and none that is not known, and no grammar is both loaded
    and unavailable (`sound_run`).  Nothing is forgotten (`Decided.run`), so
    all who ask for one grammar are told the same (`replies_tell`). -/

namespace Kousei

variable {γ : Type}

/-! ## Uses and replies -/

/-- A use of the grammars. -/
inductive GrammarUse where
  /-- The grammar of a name, or why it cannot be had. -/
  | load (name : String)
  /-- The grammar of a name, if it can be had. -/
  | get (name : String)
  /-- Whether the grammar of a name is loaded by now. -/
  | isLoaded (name : String)
  /-- Whether the grammar of a language can be had. -/
  | isAvailable (language : String)
  deriving DecidableEq, Repr

/-- The reply to a use. -/
inductive GrammarReply (γ : Type) where
  | outcome (o : Except GrammarFault γ)
  | found (grammar : Option γ)
  | told (yes : Bool)

/-- The reply to a use, and the memory after it. -/
def GrammarUse.serve (source : GrammarSource γ) (g : Grammars γ) :
    GrammarUse → GrammarReply γ × Grammars γ
  | .load name =>
    let (o, g') := g.load source name
    (.outcome o, g')
  | .get name =>
    let (grammar, g') := g.get? source name
    (.found grammar, g')
  | .isLoaded name => (.told (g.isLoaded name), g)
  | .isAvailable language =>
    let (yes, g') := g.isAvailable source language
    (.told yes, g')

/-- The grammar that a use asks for.  Whether a grammar is loaded can be told
    without asking for it. -/
def GrammarUse.asks? : GrammarUse → Option String
  | .load name => some name
  | .get name => some name
  | .isLoaded _ => none
  | .isAvailable language => grammarOf? language

/-- The reply tells of a grammar that it is `p`, or that there is none.  Why
    there is none is not compared: that is told in full only once. -/
def GrammarReply.Tells (p : Option γ) : GrammarReply γ → Prop
  | .outcome o => o.toOption = p
  | .found grammar => grammar = p
  | .told yes => yes = p.isSome

namespace Grammars

variable {source : GrammarSource γ} {g : Grammars γ} {name : String} {p : Option γ}

/-- The memory after several uses. -/
def run (source : GrammarSource γ) (g : Grammars γ) (uses : List GrammarUse) : Grammars γ :=
  uses.foldl (fun g u => (u.serve source g).2) g

/-- The uses, each with the reply to it. -/
def replies (source : GrammarSource γ) (g : Grammars γ) :
    List GrammarUse → List (GrammarUse × GrammarReply γ)
  | [] => []
  | u :: r => (u, (u.serve source g).1) :: replies source (u.serve source g).2 r

/-- A use that asks for a grammar is one request, and tells its answer. -/
theorem serve_of_asks {u : GrammarUse} (hu : u.asks? = some name) (source : GrammarSource γ)
    (g : Grammars γ) :
    (u.serve source g).2 = (g.load source name).2 ∧
      (u.serve source g).1.Tells (g.answer source name) := by
  cases u with
  | load name' =>
    cases hu
    exact ⟨rfl, rfl⟩
  | get name' =>
    cases hu
    exact ⟨rfl, rfl⟩
  | isLoaded name' => cases hu
  | isAvailable language =>
    have hname : grammarOf? language = some name := hu
    simp only [GrammarUse.serve, isAvailable, hname]
    exact ⟨rfl, rfl⟩

/-- Any other use changes nothing. -/
theorem serve_of_not_asks {u : GrammarUse} (hu : u.asks? = none) (source : GrammarSource γ)
    (g : Grammars γ) : (u.serve source g).2 = g := by
  cases u with
  | load name' => cases hu
  | get name' => cases hu
  | isLoaded name' => rfl
  | isAvailable language =>
    have hname : grammarOf? language = none := hu
    simp only [GrammarUse.serve, isAvailable, hname]

/-- What every request keeps, every use keeps. -/
theorem serve_induction {P : Grammars γ → Prop} (h : P g)
    (hload : ∀ name, P (g.load source name).2) (u : GrammarUse) : P (u.serve source g).2 := by
  cases hu : u.asks? with
  | none =>
    rw [serve_of_not_asks hu]
    exact h
  | some name =>
    rw [(serve_of_asks hu source g).1]
    exact hload name

/-! ## What the source was asked for -/

/-- What is remembered agrees with what the source was asked for. -/
structure Sound (g : Grammars γ) : Prop where
  /-- No grammar was requested twice. -/
  nodup : g.requests.Nodup
  /-- None was requested that is not known. -/
  known : ∀ name ∈ g.requests, (grammarPackages.lookup name).isSome
  /-- What became of each request is remembered. -/
  settled : ∀ name ∈ g.requests, g.loaded.lookup name = none → name ∈ g.unavailable
  /-- No grammar is both loaded and unavailable. -/
  disjoint : ∀ name ∈ g.unavailable, g.loaded.lookup name = none

theorem sound_empty : Sound ({} : Grammars γ) where
  nodup := List.nodup_nil
  known := List.forall_mem_nil _
  settled := List.forall_mem_nil _
  disjoint := List.forall_mem_nil _

/-- A grammar that nothing is known of was not requested. -/
theorem Sound.not_mem_requests (h : g.Sound) (hnone : g.loaded.lookup name = none)
    (hnot : name ∉ g.unavailable) : name ∉ g.requests :=
  fun hmem => hnot (h.settled name hmem hnone)

theorem Sound.known_cons (h : g.Sound) (hknown : grammarPackages.lookup name ≠ none) :
    ∀ other ∈ name :: g.requests, (grammarPackages.lookup other).isSome :=
  List.forall_mem_cons.2 ⟨Option.isSome_iff_ne_none.2 hknown, h.known⟩

theorem Sound.disjoint_cons (h : g.Sound) (hnone : g.loaded.lookup name = none) :
    ∀ other ∈ name :: g.unavailable, g.loaded.lookup other = none :=
  List.forall_mem_cons.2 ⟨hnone, h.disjoint⟩

/-- One request keeps the memory sound. -/
theorem Sound.load (h : g.Sound) (source : GrammarSource γ) (name : String) :
    (g.load source name).2.Sound := by
  rcases load_cases source g name with ⟨grammar, -, hload⟩ | ⟨-, -, hload⟩ |
      ⟨hnone, hnot, -, hload⟩ | ⟨hnone, hnot, hknown, ⟨grammar, -, hload⟩ | ⟨reason, -, hload⟩⟩
  · rw [hload]
    exact h
  · rw [hload]
    exact h
  · -- The name is not known: the source is not asked.
    rw [hload]
    refine ⟨h.nodup, h.known, ?_, h.disjoint_cons hnone⟩
    intro other hmem hother
    exact List.mem_cons_of_mem _ (h.settled other hmem hother)
  · -- The source gives the grammar.
    rw [hload]
    have hnew : name ∉ g.requests := h.not_mem_requests hnone hnot
    refine ⟨List.nodup_cons.2 ⟨hnew, h.nodup⟩, h.known_cons hknown, ?_, ?_⟩
    · intro other hmem hother
      rw [List.lookup_cons] at hother
      rcases List.mem_cons.1 hmem with rfl | hmem
      · simp at hother
      · split at hother
        · cases hother
        · exact h.settled other hmem hother
    · intro other hmem
      have hne : other ≠ name := by
        rintro rfl
        exact hnot hmem
      rw [List.lookup_cons, beq_eq_false_iff_ne.2 hne]
      exact h.disjoint other hmem
  · -- The source gives a fault.
    rw [hload]
    have hnew : name ∉ g.requests := h.not_mem_requests hnone hnot
    refine ⟨List.nodup_cons.2 ⟨hnew, h.nodup⟩, h.known_cons hknown, ?_, h.disjoint_cons hnone⟩
    intro other hmem hother
    rcases List.mem_cons.1 hmem with rfl | hmem
    · exact List.mem_cons_self ..
    · exact List.mem_cons_of_mem _ (h.settled other hmem hother)

/-- Hence any uses do. -/
theorem Sound.run (h : g.Sound) (source : GrammarSource γ) (uses : List GrammarUse) :
    (g.run source uses).Sound := by
  induction uses generalizing g with
  | nil => exact h
  | cons u r ih => exact ih (serve_induction (P := Sound) h (fun name => h.load source name) u)

/-- Whatever the uses were, the memory is sound. -/
theorem sound_run (source : GrammarSource γ) (uses : List GrammarUse) :
    (run source {} uses).Sound := sound_empty.run source uses

/-! ## What is known stays known -/

theorem Decided.serve (h : g.Decided name p) (source : GrammarSource γ) (u : GrammarUse) :
    (u.serve source g).2.Decided name p :=
  serve_induction (P := fun g => g.Decided name p) h (fun other => h.load source other) u

theorem Decided.run (h : g.Decided name p) (source : GrammarSource γ) (uses : List GrammarUse) :
    (g.run source uses).Decided name p := by
  induction uses generalizing g with
  | nil => exact h
  | cons u r ih => exact ih (h.serve source u)

/-- In a sound memory it is decided of each grammar that is loaded or
    unavailable. -/
theorem Sound.decided_of_mem (h : g.Sound) (hmem : name ∈ g.unavailable) : g.Decided name none :=
  ⟨h.disjoint name hmem, fun _ => hmem⟩

/-! ## What is told -/

/-- Once it is decided of a grammar, all replies tell what was decided. -/
theorem Decided.replies_tell (h : g.Decided name p) (source : GrammarSource γ)
    (uses : List GrammarUse) :
    ∀ r ∈ g.replies source uses, r.1.asks? = some name → r.2.Tells p := by
  induction uses generalizing g with
  | nil => exact List.forall_mem_nil _
  | cons u r ih =>
    refine List.forall_mem_cons.2 ⟨?_, ih (h.serve source u)⟩
    intro hu
    rw [← (load_of_decided h source).2]
    exact (serve_of_asks hu source g).2

/-- All who ask for one grammar are told the same. -/
theorem replies_tell (source : GrammarSource γ) (g : Grammars γ) (uses : List GrammarUse)
    (name : String) :
    ∃ p, ∀ r ∈ g.replies source uses, r.1.asks? = some name → r.2.Tells p := by
  induction uses generalizing g with
  | nil => exact ⟨none, List.forall_mem_nil _⟩
  | cons u r ih =>
    by_cases hu : u.asks? = some name
    · -- The first to ask decides what all others are told.
      obtain ⟨hmemory, htells⟩ := serve_of_asks hu source g
      refine ⟨g.answer source name, List.forall_mem_cons.2 ⟨fun _ => htells, ?_⟩⟩
      rw [hmemory]
      exact (decided_load source g name).replies_tell source r
    · obtain ⟨p, hp⟩ := ih (u.serve source g).2
      exact ⟨p, List.forall_mem_cons.2 ⟨fun h => absurd h hu, hp⟩⟩

end Grammars

end Kousei
