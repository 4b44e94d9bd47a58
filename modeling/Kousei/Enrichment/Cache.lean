import Kousei.Enrichment.Address
import Kousei.Value.Written

/-! # Summaries of words

    A remote service knows summaries of words.  What it answers is kept for
    a time, also when the answer is that there is no summary; that no answer
    came is not kept, so the next look-up asks again.

    `lookup` takes the reading of the clock at its beginning and the one
    when the answer is stored, and counts hits and misses. -/

namespace Kousei

/-! ## Answers of the service -/

/-- The body of an answer. -/
inductive ReplyBody where
  | value (v : Value)
  /-- It is not written in the format that was asked for. -/
  | unreadable
  /-- Reading it failed in some other way. -/
  | raised (f : Failure)

/-- What comes of a request. -/
inductive Reply where
  /-- No answer came. -/
  | unreachable
  /-- The request failed in a way that is not one of the network. -/
  | raised (f : Failure)
  | answer (status : Int) (body : ReplyBody)

/-- A service: what comes of the `n`-th request, which goes to the given
    address. -/
abbrev Service : Type := Nat → String → Reply

/-! ## Entries -/

inductive EntryStatus where
  | success
  | notFound
  | error
  deriving DecidableEq, Repr

def EntryStatus.name : EntryStatus → String
  | .success => "success"
  | .notFound => "not_found"
  | .error => "error"

/-- What is kept of an answer. -/
structure Entry where
  summary : Option Value
  status : EntryStatus
  /-- The reading of the clock when it was stored. -/
  stored : Float

/-- The summary in an answer: the value under its key, unless that is
    empty. -/
def summaryOf (v : Value) : Option Value :=
  match v.get? "extract" with
  | none => none
  | some s => if s.isFalsy then none else some s

/-- What is kept of an answer and told, or why nothing is. -/
def Reply.outcome : Reply → Except (Option Failure) (Option Value × EntryStatus)
  | .unreachable => .error none
  | .raised f => .error (some f)
  | .answer status body =>
    if status = 404 then .ok (none, .notFound)
    else if status < 200 ∨ 300 ≤ status then .ok (none, .error)
    else match body with
      | .raised f => .error (some f)
      | .unreadable => .ok (none, .error)
      | .value v => .ok (summaryOf v, .success)

/-! ## Cache -/

structure EnrichmentCache where
  /-- For how long an entry is used. -/
  ttl : Float := 3600
  /-- The template of the addresses. -/
  endpoint : String := "https://ja.wikipedia.org/api/rest_v1/page/summary/\x7bterm\x7d"
  entries : List (String × Entry) := []
  hits : Nat := 0
  misses : Nat := 0
  /-- The addresses that were asked, the latest first. -/
  requests : List String := []

namespace EnrichmentCache

def getEntry? (c : EnrichmentCache) (term : String) : Option Entry := c.entries.lookup term

/-- The entry of a term, if it is not too old at the time `now`. -/
def fresh? (c : EnrichmentCache) (term : String) (now : Float) : Option Entry :=
  (c.getEntry? term).filter fun e => now - e.stored < c.ttl

/-- The cache with an entry in place of the one that the term had. -/
def store (c : EnrichmentCache) (term : String) (e : Entry) : EnrichmentCache :=
  { c with entries := (term, e) :: c.entries.filter fun entry => entry.1 != term }

/-- The summary of a term, from an entry that is fresh at the time `start` or
    else from the service, whose answer is stored at the time `stop`. -/
def lookup (service : Service) (c : EnrichmentCache) (term : String) (start stop : Float) :
    Except Failure (Option Value) × EnrichmentCache :=
  match c.fresh? term start with
  | some e => (.ok e.summary, { c with hits := c.hits + 1 })
  | none =>
    let c := { c with misses := c.misses + 1 }
    match Enrichment.address c.endpoint term.toList with
    | .error f => (.error f, c)
    | .ok url =>
      let asked := { c with requests := url :: c.requests }
      match (service c.requests.length url).outcome with
      | .error none => (.ok none, asked)
      | .error (some f) => (.error f, asked)
      | .ok (summary, status) => (.ok summary, asked.store term ⟨summary, status, stop⟩)

/-- The cache without entries, its counts at zero. -/
def clear (c : EnrichmentCache) : EnrichmentCache :=
  { c with entries := [], hits := 0, misses := 0 }

def size (c : EnrichmentCache) : Nat := c.entries.length

end EnrichmentCache

end Kousei
