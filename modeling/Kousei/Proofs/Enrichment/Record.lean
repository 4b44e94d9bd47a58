import Mathlib.Data.List.Dedup
import Mathlib.Data.List.Perm.Basic
import Kousei.Proofs.Enrichment.Address

/-! # The cache and its record

    What the cache does at a look-up is told by what happened before: which
    look-ups sent a request, what came of that and when, and when the entries
    were removed.  Those events are seen from outside (`Use.event`); nothing of
    what the cache holds is needed to write them down.

    The cache holds of them what it needs to know (`Holds`): of every term the
    answer that was recorded last, and how many look-ups there were with and
    without a request.  Every use keeps that up (`holds_serve`), so at any time
    of any run the record decides (`lookup_of_record`). -/

namespace Kousei

/-! ## Answers that are recorded -/

/-- The summary in an answer that is recorded; an answer that is not found, that
    tells of an error or that is not readable has none.  What is not an answer is not
    recorded, and neither is an answer whose body cannot be read for a reason of its
    own. -/
def Reply.recorded? : Reply → Option (Option Value)
  | .unreachable | .raised _ => none
  | .answer status body =>
    if 200 ≤ status ∧ status < 300 then
      match body with
      | .value v => some (summaryOf v)
      | .unreadable => some none
      | .raised _ => none
    else some none

/-- What is recorded of an answer is what a look-up tells of it. -/
theorem Reply.recorded?_eq (r : Reply) : r.recorded? = r.outcome.toOption.map Prod.fst := by
  cases r with
  | unreachable => rfl
  | raised f => rfl
  | answer status body =>
    unfold recorded? outcome
    simp only
    by_cases hgood : 200 ≤ status ∧ status < 300
    · have hfound : status ≠ 404 := by omega
      have hin : ¬ (status < 200 ∨ 300 ≤ status) := by omega
      rw [if_pos hgood, if_neg hfound, if_neg hin]
      cases body <;> rfl
    · have hout : status < 200 ∨ 300 ≤ status := by omega
      rw [if_neg hgood, if_pos hout]
      by_cases hmissing : status = 404
      · rw [if_pos hmissing]
        rfl
      · rw [if_neg hmissing]
        rfl

namespace EnrichmentCache

/-! ## Uses and events -/

/-- A use of the cache: a look-up, with the reading of the clock when it begins and
    that when an answer is stored, or the removal of all entries. -/
inductive Use where
  | lookup (term : String) (start stop : Float)
  | clear

/-- What happened at a use. -/
inductive Event where
  | cleared
  /-- A look-up that sent no request. -/
  | served (term : String)
  /-- A look-up that sent one, what came of it, and the reading of the clock then. -/
  | asked (term : String) (reply : Reply) (stop : Float)

/-- The addresses that were asked between two states of the cache, the latest first. -/
def sentBetween (c c' : EnrichmentCache) : List String :=
  c'.requests.take (c'.requests.length - c.requests.length)

variable (service : Service)

/-- The cache after a use. -/
def Use.serve (c : EnrichmentCache) : Use → EnrichmentCache
  | .lookup term start stop => (c.lookup service term start stop).2
  | .clear => c.clear

/-- What is seen of a use: whether a request was sent, and what came of it. -/
def Use.event (c : EnrichmentCache) : Use → Event
  | .lookup term start stop =>
    match sentBetween c (c.lookup service term start stop).2 with
    | [] => .served term
    | url :: _ => .asked term (service c.requests.length url) stop
  | .clear => .cleared

/-- The cache after several uses, and what happened, the latest first. -/
def run (c : EnrichmentCache) (uses : List Use) : EnrichmentCache × List Event :=
  uses.foldl (fun s use => (use.serve service s.1, use.event service s.1 :: s.2)) (c, [])

/-! ## The record -/

/-- The look-ups since the entries were last removed. -/
def sinceCleared (events : List Event) : List Event :=
  events.takeWhile fun
    | .cleared => false
    | _ => true

/-- The answer that was recorded at an event: its term, its summary and when it was
    stored. -/
def Event.record? : Event → Option (String × Option Value × Float)
  | .asked term reply stop => reply.recorded?.map fun summary => (term, summary, stop)
  | _ => none

def Event.isAsked : Event → Bool
  | .asked .. => true
  | _ => false

/-- The answers that were recorded since the entries were last removed. -/
def records (events : List Event) : List (String × Option Value × Float) :=
  (sinceCleared events).filterMap Event.record?

/-- The latest answer for a term, if there is one: its summary and when it was stored. -/
def latest? (term : String) (events : List Event) : Option (Option Value × Float) :=
  (records events).lookup term

/-- The counts of the cache are those of the record. -/
structure Counts (c : EnrichmentCache) (events : List Event) : Prop where
  lookups : c.hits + c.misses = (sinceCleared events).length
  asked : c.misses = (sinceCleared events).countP Event.isAsked

/-- The cache holds what happened. -/
structure Holds (c : EnrichmentCache) (events : List Event) : Prop extends Counts c events where
  entry : ∀ term, (c.getEntry? term).map (fun e => (e.summary, e.stored)) = latest? term events
  nodup : (c.entries.map Prod.fst).Nodup

variable {service : Service} {c : EnrichmentCache} {events : List Event} {term other : String}
  {start stop : Float}

/-- The record has an answer for the term that is not too old. -/
def KnownAt (ttl : Float) (events : List Event) (term : String) (start : Float) : Prop :=
  ∃ summary stored, latest? term events = some (summary, stored) ∧ start - stored < ttl

/-! ## Look-ups -/

theorem fresh?_eq_some {entry : Entry} : c.fresh? term start = some entry ↔
    c.getEntry? term = some entry ∧ start - entry.stored < c.ttl := by
  unfold fresh?
  rw [Option.filter_eq_some_iff, decide_eq_true_iff]

/-- What the record knows is found. -/
theorem Holds.fresh? (h : Holds c events) :
    (∃ entry, c.fresh? term start = some entry) ↔ KnownAt c.ttl events term start := by
  unfold KnownAt
  rw [← h.entry term]
  constructor
  · rintro ⟨entry, hentry⟩
    obtain ⟨hget, hage⟩ := fresh?_eq_some.1 hentry
    exact ⟨entry.summary, entry.stored, by rw [hget]; rfl, hage⟩
  · rintro ⟨summary, stored, hget, hage⟩
    obtain ⟨entry, hentry, hsame⟩ := Option.map_eq_some_iff.1 hget
    cases hsame
    exact ⟨entry, fresh?_eq_some.2 ⟨hentry, hage⟩⟩

/-- The cache after a request. -/
def asking (c : EnrichmentCache) (url : String) : EnrichmentCache :=
  { c with misses := c.misses + 1, requests := url :: c.requests }

/-- What a look-up does: it is served from an entry, or it sends a request, of which
    something is recorded or nothing. -/
theorem lookup_cases (service : Service) (start stop : Float) {url : String}
    (hurl : Enrichment.address c.endpoint term.toList = .ok url) :
    (∃ entry, c.fresh? term start = some entry ∧
      c.lookup service term start stop = (.ok entry.summary, { c with hits := c.hits + 1 })) ∨
    (c.fresh? term start = none ∧ ∃ answer,
      (service c.requests.length url).recorded? = none ∧
      c.lookup service term start stop = (answer, c.asking url)) ∨
    (c.fresh? term start = none ∧ ∃ summary status,
      (service c.requests.length url).recorded? = some summary ∧
      c.lookup service term start stop =
        (.ok summary, (c.asking url).store term ⟨summary, status, stop⟩)) := by
  unfold lookup
  cases hfresh : c.fresh? term start with
  | some entry => exact .inl ⟨entry, rfl, rfl⟩
  | none =>
    simp only [hurl]
    cases houtcome : (service c.requests.length url).outcome with
    | error failure =>
      -- Nothing is stored, whether the look-up then tells of a failure or of no summary.
      have hrecorded : (service c.requests.length url).recorded? = none := by
        rw [Reply.recorded?_eq, houtcome]
        rfl
      cases failure with
      | none => exact .inr (.inl ⟨trivial, _, hrecorded, rfl⟩)
      | some f => exact .inr (.inl ⟨trivial, _, hrecorded, rfl⟩)
    | ok kept =>
      obtain ⟨summary, status⟩ := kept
      refine .inr (.inr ⟨trivial, summary, status, ?_, rfl⟩)
      rw [Reply.recorded?_eq, houtcome]
      rfl

theorem sentBetween_same {c' : EnrichmentCache} (h : c'.requests = c.requests) :
    sentBetween c c' = [] := by
  rw [sentBetween, h, Nat.sub_self, List.take_zero]

theorem sentBetween_cons {c' : EnrichmentCache} {url : String}
    (h : c'.requests = url :: c.requests) : sentBetween c c' = [url] := by
  have hone : (url :: c.requests).length - c.requests.length = 1 := by
    rw [List.length_cons]
    omega
  rw [sentBetween, h, hone, List.take_succ_cons, List.take_zero]

theorem serve_lookup (service : Service) (c : EnrichmentCache) (term : String)
    (start stop : Float) :
    (Use.lookup term start stop).serve service c = (c.lookup service term start stop).2 := rfl

/-- A look-up that leaves the requests as they were sent none. -/
theorem event_of_same {c' : EnrichmentCache} {answer : Except Failure (Option Value)}
    (hrun : c.lookup service term start stop = (answer, c')) (h : c'.requests = c.requests) :
    (Use.lookup term start stop).event service c = .served term := by
  unfold Use.event
  simp only
  rw [hrun, sentBetween_same h]

/-- Of a look-up that sends one request it is seen what came of it. -/
theorem event_of_cons {c' : EnrichmentCache} {answer : Except Failure (Option Value)}
    {url : String} (hrun : c.lookup service term start stop = (answer, c'))
    (h : c'.requests = url :: c.requests) :
    (Use.lookup term start stop).event service c =
      .asked term (service c.requests.length url) stop := by
  unfold Use.event
  simp only
  rw [hrun, sentBetween_cons h]

/-! ## Entries -/

theorem getEntry?_store (c : EnrichmentCache) (term : String) (entry : Entry) (other : String) :
    getEntry? (c.store term entry) other =
      if other = term then some entry else c.getEntry? other := by
  have hkept (hother : other ≠ term) (es : List (String × Entry)) :
      (es.filter fun e => e.1 != term).lookup other = es.lookup other := by
    induction es with
    | nil => rfl
    | cons e r ih =>
      obtain ⟨key, kept⟩ := e
      by_cases hkey : key = term
      · have hne : (other == key) = false := by
          rw [hkey]
          exact beq_eq_false_iff_ne.2 hother
        rw [List.filter_cons_of_neg (by simp [hkey]), ih, List.lookup_cons, hne]
      · rw [List.filter_cons_of_pos (by simp [hkey]), List.lookup_cons, List.lookup_cons, ih]
  unfold store getEntry?
  by_cases hother : other = term
  · rw [if_pos hother, hother, List.lookup_cons_self]
  · rw [if_neg hother, List.lookup_cons, beq_eq_false_iff_ne.2 hother]
    exact hkept hother c.entries

theorem nodup_store (h : (c.entries.map Prod.fst).Nodup) (term : String) (entry : Entry) :
    ((c.store term entry).entries.map Prod.fst).Nodup := by
  unfold store
  rw [List.map_cons, List.nodup_cons]
  constructor
  · intro hmem
    obtain ⟨e, he, hkey⟩ := List.mem_map.1 hmem
    obtain ⟨-, hne⟩ := List.mem_filter.1 he
    exact bne_iff_ne.1 hne hkey
  · exact h.sublist (List.filter_sublist.map Prod.fst)

/-! ## Runs -/

/-- A cache without entries holds a record of nothing. -/
theorem holds_of_empty (hevents : sinceCleared events = []) (h : c.entries = [])
    (hhits : c.hits = 0) (hmisses : c.misses = 0) : Holds c events where
  entry := by
    intro term
    unfold getEntry? latest? records
    rw [h, hevents]
    rfl
  nodup := by rw [h]; exact List.nodup_nil
  lookups := by rw [hhits, hmisses, hevents]; rfl
  asked := by rw [hmisses, hevents]; rfl

theorem sinceCleared_served (term : String) (events : List Event) :
    sinceCleared (.served term :: events) = .served term :: sinceCleared events := rfl

theorem sinceCleared_asked (term : String) (reply : Reply) (stop : Float) (events : List Event) :
    sinceCleared (.asked term reply stop :: events) =
      .asked term reply stop :: sinceCleared events := rfl

theorem latest?_asked (term : String) (reply : Reply) (stop : Float) (events : List Event)
    (other : String) :
    latest? other (.asked term reply stop :: events) =
      match reply.recorded? with
      | none => latest? other events
      | some summary => if other = term then some (summary, stop) else latest? other events := by
  have hrecord : Event.record? (.asked term reply stop) =
      reply.recorded?.map fun summary => (term, summary, stop) := rfl
  unfold latest? records
  rw [sinceCleared_asked]
  cases hreply : reply.recorded? with
  | none =>
    rw [hreply] at hrecord
    rw [List.filterMap_cons_none hrecord]
  | some summary =>
    rw [hreply] at hrecord
    simp only
    rw [List.filterMap_cons_some hrecord, List.lookup_cons]
    by_cases hother : other = term
    · rw [if_pos hother, beq_iff_eq.2 hother]
    · rw [if_neg hother, beq_eq_false_iff_ne.2 hother]

namespace Counts

/-- A look-up without a request is a hit. -/
theorem served (h : Counts c events) (term : String) :
    Counts { c with hits := c.hits + 1 } (.served term :: events) where
  lookups := by
    have hlookups := h.lookups
    rw [sinceCleared_served, List.length_cons]
    change c.hits + 1 + c.misses = _
    omega
  asked := by
    rw [sinceCleared_served, List.countP_cons_of_neg Bool.false_ne_true]
    exact h.asked

/-- A request is a miss. -/
theorem asking (h : Counts c events) (url term : String) (reply : Reply) (stop : Float) :
    Counts (c.asking url) (.asked term reply stop :: events) where
  lookups := by
    have hlookups := h.lookups
    rw [sinceCleared_asked, List.length_cons]
    change c.hits + (c.misses + 1) = _
    omega
  asked := by
    have hasked := h.asked
    rw [sinceCleared_asked, List.countP_cons_of_pos rfl]
    change c.misses + 1 = _
    omega

end Counts

/-- **A step.**  Every use keeps up what the cache holds. -/
theorem holds_serve (h : Holds c events) (hurl : Enrichment.Fillable c.endpoint) (use : Use) :
    Holds (use.serve service c) (use.event service c :: events) := by
  cases use with
  | clear => exact holds_of_empty rfl rfl rfl rfl
  | lookup term start stop =>
    obtain ⟨url, hurl⟩ := hurl term
    rw [serve_lookup]
    obtain ⟨entry, -, hrun⟩ | ⟨-, answer, hnone, hrun⟩ | ⟨-, summary, status, hsome, hrun⟩ :=
      lookup_cases service start stop hurl
    · rw [event_of_same hrun rfl, hrun]
      exact ⟨h.toCounts.served term, h.entry, h.nodup⟩
    · rw [event_of_cons hrun rfl, hrun]
      refine ⟨h.toCounts.asking url term _ stop, fun other => ?_, h.nodup⟩
      rw [latest?_asked, hnone]
      exact h.entry other
    · -- The answer is the latest of its term, and those of the other terms stay.
      rw [event_of_cons hrun rfl, hrun]
      have hcounts := h.toCounts.asking url term (service c.requests.length url) stop
      refine ⟨⟨hcounts.lookups, hcounts.asked⟩, fun other => ?_, nodup_store h.nodup term _⟩
      rw [getEntry?_store, latest?_asked, hsome]
      by_cases hother : other = term
      · simp only [if_pos hother, Option.map_some]
      · simp only [if_neg hother]
        exact h.entry other

theorem serve_settings (service : Service) (c : EnrichmentCache)
    (hurl : Enrichment.Fillable c.endpoint) (use : Use) :
    (use.serve service c).ttl = c.ttl ∧ (use.serve service c).endpoint = c.endpoint := by
  cases use with
  | clear => exact ⟨rfl, rfl⟩
  | lookup term start stop =>
    obtain ⟨url, hurl⟩ := hurl term
    rw [serve_lookup]
    obtain ⟨entry, -, hrun⟩ | ⟨-, answer, -, hrun⟩ | ⟨-, summary, status, -, hrun⟩ :=
      lookup_cases service start stop hurl
    · rw [hrun]
      exact ⟨rfl, rfl⟩
    · rw [hrun]
      exact ⟨rfl, rfl⟩
    · rw [hrun]
      exact ⟨rfl, rfl⟩

/-- **A run.**  A cache holds what happened since it was new. -/
theorem holds_run (service : Service) {ttl : Float} {endpoint : String}
    (hurl : Enrichment.Fillable endpoint) (uses : List Use) :
    Holds (run service { ttl, endpoint } uses).1 (run service { ttl, endpoint } uses).2 ∧
      (run service { ttl, endpoint } uses).1.ttl = ttl ∧
      (run service { ttl, endpoint } uses).1.endpoint = endpoint := by
  refine List.foldlRecOn
    (motive := fun (s : EnrichmentCache × List Event) =>
      Holds s.1 s.2 ∧ s.1.ttl = ttl ∧ s.1.endpoint = endpoint) uses _
    ⟨holds_of_empty rfl rfl rfl rfl, rfl, rfl⟩ ?_
  rintro ⟨c, events⟩ ⟨hholds, httl, hendpoint⟩ use -
  have hfillable : Enrichment.Fillable c.endpoint := hendpoint ▸ hurl
  obtain ⟨httl', hendpoint'⟩ := serve_settings service c hfillable use
  exact ⟨holds_serve hholds hfillable use, httl'.trans httl, hendpoint'.trans hendpoint⟩

theorem mem_map_fst_iff {β : Type} {l : List (String × β)} {key : String} :
    key ∈ l.map Prod.fst ↔ (l.lookup key).isSome = true := by
  rw [List.lookup_isSome_iff, List.mem_map]
  constructor
  · rintro ⟨p, hp, rfl⟩
    exact ⟨p, hp, beq_self_eq_true _⟩
  · rintro ⟨p, hp, hkey⟩
    exact ⟨p, hp, (beq_iff_eq.1 hkey).symm⟩

/-- There are as many entries as terms of which an answer is recorded. -/
theorem Holds.size (h : Holds c events) :
    c.size = ((records events).map Prod.fst).dedup.length := by
  have hterms : ∀ term, term ∈ c.entries.map Prod.fst ↔
      term ∈ ((records events).map Prod.fst).dedup := by
    intro term
    have hentry : (c.entries.lookup term).isSome = ((records events).lookup term).isSome := by
      have hsame := congrArg Option.isSome (h.entry term)
      rwa [Option.isSome_map] at hsame
    rw [List.mem_dedup, mem_map_fst_iff, mem_map_fst_iff, hentry]
  have hperm := (List.perm_ext_iff_of_nodup h.nodup (List.nodup_dedup _)).2 hterms
  calc c.size = (c.entries.map Prod.fst).length := (List.length_map _).symm
    _ = ((records events).map Prod.fst).dedup.length := hperm.length_eq

/-- From `c` a look-up does what the record says, for entries that are used for the time
    `ttl`. -/
structure Follows (service : Service) (ttl : Float) (c : EnrichmentCache) (events : List Event)
    (term : String) (start stop : Float) : Prop where
  /-- No request is sent just when the record has an answer that is not too old. -/
  silent : sentBetween c (c.lookup service term start stop).2 = [] ↔
    KnownAt ttl events term start
  /-- The latest answer is told then, and the entries stay. -/
  served : ∀ summary stored, latest? term events = some (summary, stored) →
    start - stored < ttl → (c.lookup service term start stop).1 = .ok summary ∧
      (c.lookup service term start stop).2.entries = c.entries
  /-- Otherwise one request is sent.  What is recorded of it takes the place of the entry
      of the term; the other entries stay, and all of them if nothing is recorded. -/
  asked : ¬ KnownAt ttl events term start →
    ∃ url, sentBetween c (c.lookup service term start stop).2 = [url] ∧
      ((service c.requests.length url).recorded? = none →
        (c.lookup service term start stop).2.entries = c.entries) ∧
      ∀ summary, (service c.requests.length url).recorded? = some summary →
        (c.lookup service term start stop).1 = .ok summary ∧
        (∃ status, getEntry? (c.lookup service term start stop).2 term =
          some ⟨summary, status, stop⟩) ∧
        ∀ other, other ≠ term →
          getEntry? (c.lookup service term start stop).2 other = c.getEntry? other

theorem Holds.follows_of_fresh {entry : Entry} (h : Holds c events)
    (hfresh : c.fresh? term start = some entry) :
    Follows service c.ttl c events term start stop := by
  have hknown : KnownAt c.ttl events term start := h.fresh?.1 ⟨entry, hfresh⟩
  have hlatest : latest? term events = some (entry.summary, entry.stored) := by
    rw [← h.entry term, (fresh?_eq_some.1 hfresh).1]
    rfl
  have hrun : c.lookup service term start stop =
      (.ok entry.summary, { c with hits := c.hits + 1 }) := by
    unfold lookup
    rw [hfresh]
  refine ⟨⟨fun _ => hknown, fun _ => sentBetween_same (by rw [hrun])⟩, ?_,
    fun hn => absurd hknown hn⟩
  intro summary stored hsummary _
  rw [hlatest] at hsummary
  cases hsummary
  rw [hrun]
  exact ⟨rfl, rfl⟩

/-- A look-up for which nothing is fresh has to be followed in what it asks only. -/
theorem Holds.follows_of_stale {url : String} (h : Holds c events)
    (hfresh : c.fresh? term start = none)
    (hsent : (c.lookup service term start stop).2.requests = url :: c.requests)
    (hnone : (service c.requests.length url).recorded? = none →
      (c.lookup service term start stop).2.entries = c.entries)
    (hsome : ∀ summary, (service c.requests.length url).recorded? = some summary →
      (c.lookup service term start stop).1 = .ok summary ∧
      (∃ status, getEntry? (c.lookup service term start stop).2 term =
        some ⟨summary, status, stop⟩) ∧
      ∀ other, other ≠ term →
        getEntry? (c.lookup service term start stop).2 other = c.getEntry? other) :
    Follows service c.ttl c events term start stop := by
  have hunknown : ¬ KnownAt c.ttl events term start := by
    intro hknown
    obtain ⟨entry, hentry⟩ := h.fresh?.2 hknown
    rw [hfresh] at hentry
    cases hentry
  refine ⟨⟨?_, fun hknown => absurd hknown hunknown⟩,
    fun summary stored hl hage => absurd ⟨summary, stored, hl, hage⟩ hunknown,
    fun _ => ⟨url, sentBetween_cons hsent, hnone, hsome⟩⟩
  intro hsilent
  rw [sentBetween_cons hsent] at hsilent
  cases hsilent

theorem Holds.follows {url : String} (h : Holds c events)
    (hurl : Enrichment.address c.endpoint term.toList = .ok url) :
    Follows service c.ttl c events term start stop := by
  obtain ⟨entry, hfresh, -⟩ | ⟨hfresh, answer, hreply, hrun⟩ |
      ⟨hfresh, summary, status, hreply, hrun⟩ :=
    lookup_cases service start stop hurl
  · exact h.follows_of_fresh hfresh
  · refine h.follows_of_stale hfresh (by rw [hrun]; rfl) (fun _ => by rw [hrun]; rfl) ?_
    intro summary hsummary
    rw [hreply] at hsummary
    cases hsummary
  · refine h.follows_of_stale hfresh (by rw [hrun]; rfl) (fun hnone => ?_) ?_
    · rw [hreply] at hnone
      cases hnone
    · intro summary' hsummary
      rw [hreply] at hsummary
      cases hsummary
      rw [hrun]
      refine ⟨rfl, ⟨status, ?_⟩, fun other hother => ?_⟩
      · rw [getEntry?_store, if_pos rfl]
      · rw [getEntry?_store, if_neg hother]
        rfl

/-- **The record decides.**  Let every term have an address.  After any uses of a new
    cache every look-up follows the record of what happened.  All look-ups since the
    entries were last removed are hits or misses, the misses are the requests since
    then, and there are as many entries as terms of which an answer was recorded. -/
theorem lookup_follows_record (service : Service) (ttl : Float) (endpoint : String)
    (hurl : Enrichment.Fillable endpoint) (uses : List Use) :
    let c := (run service { ttl, endpoint } uses).1
    let events := (run service { ttl, endpoint } uses).2
    (∀ term start stop, Follows service ttl c events term start stop) ∧
    c.hits + c.misses = (sinceCleared events).length ∧
    c.misses = (sinceCleared events).countP Event.isAsked ∧
    c.size = ((records events).map Prod.fst).dedup.length := by
  intro c events
  obtain ⟨hholds, httl, hendpoint⟩ := holds_run service hurl uses
  refine ⟨?_, hholds.lookups, hholds.asked, hholds.size⟩
  intro term start stop
  obtain ⟨url, hurl⟩ : ∃ url, Enrichment.address c.endpoint term.toList = .ok url := by
    rw [hendpoint]
    exact hurl term
  have hfollows : Follows service c.ttl c events term start stop := hholds.follows hurl
  rwa [httl] at hfollows

/-- A service that does not know the first word that is asked for, and is not there for
    any other. -/
def sampleService : Service := fun n _ =>
  match n with
  | 0 => .answer 404 .unreadable
  | _ => .unreachable

/-- A look-up, and one of the same word after its answer has become too old. -/
def sampleUses : List Use := [.lookup "猫" 1000 1000, .lookup "猫" 4600 4600]

/-- The address of the word. -/
def sampleUrl : String := String.ofList (Enrichment.defaultBase ++ Enrichment.escape "猫".toList)

theorem run_sampleUses :
    run sampleService {} sampleUses =
      ({ entries := [("猫", ⟨none, .notFound, 1000⟩)], misses := 2,
         requests := [sampleUrl, sampleUrl] },
       [.asked "猫" .unreachable 4600, .asked "猫" (.answer 404 .unreadable) 1000]) := by
  have hurl := Enrichment.address_default "猫".toList
  have hfirst : ({} : EnrichmentCache).lookup sampleService "猫" 1000 1000 =
      (.ok none, { entries := [("猫", ⟨none, .notFound, 1000⟩)], misses := 1,
                   requests := [sampleUrl] }) := by
    have hstale : ({} : EnrichmentCache).fresh? "猫" 1000 = none := rfl
    unfold lookup
    rw [hstale]
    simp only [hurl]
    rfl
  generalize hc : ({ entries := [("猫", ⟨none, .notFound, 1000⟩)], misses := 1,
                     requests := [sampleUrl] } : EnrichmentCache) = c at hfirst
  have hsecond : c.lookup sampleService "猫" 4600 4600 = (.ok none, c.asking sampleUrl) := by
    have hstale : c.fresh? "猫" 4600 = none := by
      rw [← Option.isNone_iff_eq_none, ← hc]
      decide +kernel
    subst hc
    unfold lookup
    rw [hstale]
    simp only [hurl]
    rfl
  unfold run sampleUses
  rw [List.foldl_cons, List.foldl_cons, List.foldl_nil]
  simp only [serve_lookup]
  rw [event_of_cons hfirst (by rw [← hc]), hfirst]
  simp only
  rw [event_of_cons hsecond rfl, hsecond, ← hc]
  rfl

theorem lookup_follows_record_of_sampleUses :
    let c := (run sampleService {} sampleUses).1
    let events := (run sampleService {} sampleUses).2
    KnownAt 3600 events "猫" 4599 ∧
    (c.lookup sampleService "猫" 4599 4599).1 = .ok none ∧
    sentBetween c (c.lookup sampleService "猫" 4599 4599).2 = [] ∧
    sentBetween c (c.lookup sampleService "猫" 4600 4600).2 ≠ [] ∧
    c.hits + c.misses = 2 ∧ c.misses = 2 ∧ c.size = 1 := by
  obtain ⟨hfollows, hlookups, hasked, hsize⟩ := lookup_follows_record sampleService 3600 _
    Enrichment.fillable_default sampleUses
  have hlatest : latest? "猫" (run sampleService {} sampleUses).2 = some (none, 1000) := by
    rw [run_sampleUses]
    rfl
  have hknown : KnownAt 3600 (run sampleService {} sampleUses).2 "猫" 4599 :=
    ⟨none, 1000, hlatest, by decide +kernel⟩
  have hold : ¬ KnownAt 3600 (run sampleService {} sampleUses).2 "猫" 4600 := by
    rintro ⟨summary, stored, hfound, hage⟩
    rw [hlatest] at hfound
    cases hfound
    revert hage
    decide +kernel
  rw [run_sampleUses] at hlookups hasked hsize
  refine ⟨hknown, ((hfollows "猫" 4599 4599).served none 1000 hlatest (by decide +kernel)).1,
    (hfollows "猫" 4599 4599).silent.2 hknown, mt (hfollows "猫" 4600 4600).silent.1 hold, ?_⟩
  rw [run_sampleUses]
  exact ⟨hlookups, hasked, hsize⟩

end EnrichmentCache

end Kousei
