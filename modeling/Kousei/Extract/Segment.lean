import Kousei.Extract.Marker
import Kousei.Text.Japanese

/-! # Segments

    A candidate is a stretch of a document that may hold prose, with its
    comment markers still on it.  A segment is the prose itself.  Both know
    where in the document they begin.

    `Segment.ofCandidates` makes the segments of a document out of its
    candidates: in the order of their beginnings, without those that hold
    too little Japanese, and never two at one place. -/

namespace Kousei

/-- A stretch of a document that may hold prose. -/
structure Candidate where
  start : Int
  source : Text
  /-- Are there comment markers to take away? -/
  markers : Bool := true
  deriving DecidableEq, Repr

/-- A stretch of prose and where it begins in the document. -/
structure Segment where
  text : Text
  offset : Int
  deriving DecidableEq, Repr

namespace Segment

/-- The place after the last character. -/
def stop (s : Segment) : Int := s.offset + s.text.length

/-- The prose of a candidate, if it is Japanese enough. -/
def ofCandidate? (minRatio : Float) (c : Candidate) : Option Segment :=
  let (lead, body) := Extract.body c.source c.markers
  if body.isJapaneseEnough minRatio then some ⟨body, c.start + lead⟩ else none

/-- Of the segments at one place only the first. -/
def distinct : List Segment → List Segment
  | [] => []
  | s :: r => s :: (distinct r).filter (·.offset != s.offset)

/-- The segments of a list of candidates, in the order of their beginnings. -/
def ofCandidates (minRatio : Float) (cs : List Candidate) : List Segment :=
  distinct ((cs.mergeSort fun a b => a.start ≤ b.start).filterMap (ofCandidate? minRatio))

end Segment

end Kousei
