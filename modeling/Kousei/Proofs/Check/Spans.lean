import Kousei.Diagnostic
import Kousei.Proofs.Text.Lines

/-! # Positions in a segment and in its document

    A diagnostic is found in a segment and told at its place in the document.
    Its lines and characters there need not be counted from the beginning of
    the document: it is enough to know the position at which the segment begins
    and the positions in the segment alone (`span_of_concatenation`).  On the
    first line of the segment the characters before it on that line are added,
    on a later line nothing is, and the lines add up in either case.

    The text after the segment plays no part, as a position is told by the
    text before its place. -/

namespace Kousei

/-- A position of a text, in a document in which the text begins at `p`. -/
def Position.placed (p q : Position) : Position :=
  if 0 < q.line then ⟨p.line + q.line, q.character⟩
  else ⟨p.line, p.character + q.character⟩

/-- The two ends of a stretch of a text that begins at `p`. -/
def Span.placed (p : Position) (s : Span) : Span := ⟨p.placed s.start, p.placed s.stop⟩

namespace Text

variable {b : Text} {k : Int}

/-! ## The last line of two texts -/

theorem lastLine_append_of_mem (a : Text) (h : '\n' ∈ b) : lastLine (a ++ b) = lastLine b := by
  induction a with
  | nil => rfl
  | cons c a ih => rw [List.cons_append, lastLine_cons_of_mem c (List.mem_append_right a h), ih]

theorem lastLine_append_of_not_mem (a : Text) (h : '\n' ∉ b) :
    lastLine (a ++ b) = lastLine a ++ b := by
  have hall : ∀ c ∈ b.reverse, (c != '\n') = true := by
    intro c hc
    rw [bne_iff_ne]
    rintro rfl
    exact h (List.mem_reverse.1 hc)
  rw [lastLine, List.reverse_append, List.takeWhile_append_of_pos hall, List.reverse_append,
    List.reverse_reverse, lastLine]

/-! ## Positions of two texts -/

/-- The position at the end of two texts, by the positions at the end of each. -/
theorem position_append_append (a b rest : Text) :
    (a ++ b ++ rest).position (a ++ b).length =
      Position.placed ⟨a.count '\n', (lastLine a).length⟩ ⟨b.count '\n', (lastLine b).length⟩ := by
  rw [position_append, List.count_append]
  by_cases h : '\n' ∈ b
  · have hline : (0 : Int) < b.count '\n' := Int.natCast_pos.2 (List.count_pos_iff.2 h)
    rw [lastLine_append_of_mem a h, Position.placed, if_pos hline, Int.natCast_add]
  · -- The line of the second text goes on with the last line of the first.
    have hline : b.count '\n' = 0 := List.count_eq_zero.2 h
    have hnone : ¬ (0 : Int) < (0 : Nat) := Int.lt_irrefl 0
    rw [lastLine_append_of_not_mem a h, lastLine_of_not_mem h, hline, List.length_append,
      Position.placed, if_neg hnone, Nat.add_zero, Int.natCast_add]

/-- A place of a text that stands between two others has the position that it has in the text,
    placed where the text begins. -/
theorem position_add_of_concatenation (a b rest : Text) (h0 : 0 ≤ k) (hk : k ≤ b.length) :
    (a ++ b ++ rest).position (a.length + k) = (a.position a.length).placed (b.position k) := by
  obtain ⟨k, rfl⟩ := Int.eq_ofNat_of_zero_le h0
  -- The text up to the place, and what of it comes after.
  obtain ⟨before, after, rfl, hlen⟩ : ∃ before after : Text, b = before ++ after ∧
      before.length = k :=
    ⟨b.take k, b.drop k, (List.take_append_drop k b).symm, List.length_take_of_le (by omega)⟩
  have ha : a.position a.length = ⟨a.count '\n', (lastLine a).length⟩ := by
    have h := position_append a []
    rwa [List.append_nil] at h
  have hplace : (a.length + k : Int) = (a ++ before).length := by
    rw [List.length_append, hlen, Int.natCast_add]
  have hb : (before ++ after).position k = ⟨before.count '\n', (lastLine before).length⟩ := by
    rw [← hlen, position_append]
  rw [ha, hb, hplace, ← List.append_assoc, List.append_assoc (a ++ before),
    position_append_append]

end Text

/-! ## Spans of diagnostics -/

/-- Both ends of the diagnostic are places of the text. -/
structure Diagnostic.EndsIn (t : Text) (d : Diagnostic) : Prop where
  start_nonneg : 0 ≤ d.start
  start_le : d.start ≤ t.length
  stop_nonneg : 0 ≤ d.stop
  stop_le : d.stop ≤ t.length

/-- The lines and characters of a diagnostic that is moved to the place of its segment. -/
theorem Diagnostic.EndsIn.span_shifted {b : Text} {d : Diagnostic} (h : d.EndsIn b)
    (a rest : Text) :
    (d.shifted a.length).span (a ++ b ++ rest) = (d.span b).placed (a.position a.length) := by
  have hstart := Text.position_add_of_concatenation a b rest h.start_nonneg h.start_le
  have hstop := Text.position_add_of_concatenation a b rest h.stop_nonneg h.stop_le
  rw [Int.add_comm] at hstart hstop
  exact congrArg₂ Span.mk hstart hstop

/-- **Positions of two texts.**  A place of the second of two texts has in both together the
    position that it has in the second, placed at the end of the first.  So the diagnostics
    of a segment have in the document the spans that they have in the segment, placed where
    the segment begins, whatever follows it. -/
theorem span_of_concatenation (a b : Text) :
    (∀ k : Int, 0 ≤ k → k ≤ b.length →
      (a ++ b).position (a.length + k) = (a.position a.length).placed (b.position k)) ∧
    ∀ (rest : Text) (ds : List Diagnostic), (∀ d ∈ ds, d.EndsIn b) →
      (ds.map (·.shifted a.length)).map (·.span (a ++ b ++ rest)) =
        ds.map fun d => (d.span b).placed (a.position a.length) := by
  constructor
  · intro k h0 hk
    have h := Text.position_add_of_concatenation a b [] h0 hk
    rwa [List.append_nil] at h
  · intro rest ds hds
    rw [List.map_map]
    refine List.map_congr_left fun d hd => ?_
    exact (hds d hd).span_shifted a rest

/-- A comment, a line of code and another comment; the diagnostic is one of the last. -/
def sampleComments : Text := text "# コメント\nx = 1\n"

def sampleLast : Text := text "# もう\n一つ"

def sampleFound : Diagnostic := { start := 2, stop := 7, message := "msg" }

theorem span_of_concatenation_of_sampleComments :
    sampleFound.EndsIn sampleLast ∧
    (sampleFound.shifted 13).span (sampleComments ++ sampleLast ++ text "。\n") =
      (sampleFound.span sampleLast).placed (sampleComments.position 13) ∧
    (sampleFound.span sampleLast).placed (sampleComments.position 13) = ⟨⟨2, 2⟩, ⟨3, 2⟩⟩ ∧
    (sampleComments ++ sampleLast).position (13 + 4) =
      (sampleComments.position 13).placed (sampleLast.position 4) := by
  have hfound : sampleFound.EndsIn sampleLast :=
    ⟨by decide, by decide, by decide, by decide⟩
  have hlen : sampleComments.length = 13 := by decide
  obtain ⟨hplace, hspans⟩ := span_of_concatenation sampleComments sampleLast
  rw [hlen] at hplace hspans
  have hspan := hspans (text "。\n") [sampleFound] (List.forall_mem_singleton.2 hfound)
  exact ⟨hfound, List.singleton_inj.1 hspan, by decide, hplace 4 (by decide) (by decide)⟩

end Kousei
