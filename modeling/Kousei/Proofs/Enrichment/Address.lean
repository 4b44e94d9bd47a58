import Kousei.Enrichment.Cache

/-! # Addresses that can be written

    A template that ends with the place of the word, and has no braces before
    it, gives an address for every word (`address_of_endsWithTerm`).  The template
    that is used unless another is given is of that kind. -/

namespace Kousei.Enrichment

/-- The place of the word in a template. -/
def termPlace : Text := "\x7bterm\x7d".toList

/-- A text in which no place begins or ends. -/
def Literal (t : Text) : Prop := ∀ c ∈ t, c ≠ '\x7b' ∧ c ≠ '\x7d'

/-- Every word has an address. -/
def Fillable (template : String) : Prop :=
  ∀ term : String, ∃ url, address template term.toList = .ok url

theorem nextPlace_append {base : Text} (h : Literal base) :
    nextPlace (base ++ termPlace) = .ok (base, some { name := "term".toList }, []) := by
  have hbase : ∀ c ∈ base, (c != '\x7b' && c != '\x7d') = true := by
    intro c hc
    obtain ⟨hopen, hclose⟩ := h c hc
    rw [bne_iff_ne.2 hopen, bne_iff_ne.2 hclose, Bool.and_self]
  have hliteral : (base ++ termPlace).takeWhile (fun c => c != '\x7b' && c != '\x7d') = base := by
    rw [List.takeWhile_append_of_pos hbase]
    exact List.append_nil base
  unfold nextPlace
  simp only [hliteral, List.drop_left]
  rfl

theorem fillPlace_term (word : Text) (depth : Nat) :
    fillPlace word (depth + 1) { name := "term".toList } = .ok word := by
  have hterm : resolve word "term".toList = .ok (.text word) := rfl
  unfold fillPlace
  rw [hterm]
  rfl

theorem fill_append {base : Text} (h : Literal base) (word : Text) :
    fill (base ++ termPlace) word = .ok (base ++ word) := by
  unfold fill maxDepth fillTemplate
  rw [nextPlace_append h]
  change ((fillPlace word 2 { name := "term".toList }).bind fun here => _) = _
  rw [fillPlace_term]
  rfl

/-- A template with the place of the word at its end gives an address for every word. -/
theorem address_of_endsWithTerm {template : String} {base : Text} (h : Literal base)
    (ht : template.toList = base ++ termPlace) (word : Text) :
    address template word = .ok (String.ofList (base ++ escape word)) := by
  unfold address
  rw [ht, fill_append h]
  rfl

/-- What comes before the word in an address, unless another template is given. -/
def defaultBase : Text := "https://ja.wikipedia.org/api/rest_v1/page/summary/".toList

theorem address_default (word : Text) :
    address ({} : EnrichmentCache).endpoint word =
      .ok (String.ofList (defaultBase ++ escape word)) := by
  have hall : defaultBase.all (fun c => c != '\x7b' && c != '\x7d') = true := by decide +kernel
  have hbase : Literal defaultBase := by
    intro c hc
    have hsafe := List.all_eq_true.1 hall c hc
    rwa [Bool.and_eq_true, bne_iff_ne, bne_iff_ne] at hsafe
  exact address_of_endsWithTerm hbase (by decide +kernel) word

theorem fillable_default : Fillable ({} : EnrichmentCache).endpoint :=
  fun term => ⟨_, address_default term.toList⟩

end Kousei.Enrichment
