import Kousei.Morph.Tokenizer
import Kousei.Proofs.Text.Lines

/-! # One record from two backends

    Both backends read the same dictionary, so one record of it reaches a
    token in two ways: with the part of speech and its details joined by
    commas and a star for every field that is missing, or as the list of the
    fields that are there.  A token is to say the same of the word whichever
    way it came.

    It does so in every field but the sounds.  A missing base form is the
    surface in both ways; a missing reading or pronunciation stays the star
    that the one backend writes, and is empty from the other.  So the tokens
    of the one are those of the other with stars for the empty sounds
    (`Token.starSounds`), and both are the same just when every record goes as
    far as the pronunciation (`Installation.tokens_agree_iff`). -/

namespace Kousei

/-! ## Pieces that were joined -/

namespace Text

theorem splitOn_eq (sep : Char) (t : Text) : t.splitOn sep = List.splitOn sep t := by
  induction t with
  | nil => rfl
  | cons c r ih =>
    by_cases hc : c = sep
    · subst hc
      rw [splitOn, if_pos rfl, ih, List.splitOn, List.splitOn,
        List.splitOnP_cons_eq_if_modifyHead, if_pos (beq_self_eq_true c)]
    · obtain ⟨piece, more, hpieces, hcons⟩ := splitOn_cons_of_ne hc r
      rw [hcons, List.splitOn, List.splitOnP_cons_eq_if_modifyHead, if_neg (by simpa using hc)]
      show (c :: piece) :: more = (List.splitOn sep r).modifyHead (List.cons c)
      rw [← ih, hpieces]
      rfl

/-- Strings without the separator are the pieces of what they are joined to. -/
theorem splitOn_toList_intercalate {sep : Char} {pieces : List String} (hne : pieces ≠ [])
    (hfree : ∀ p ∈ pieces, sep ∉ p.toList) :
    (splitOn sep ((String.singleton sep).intercalate pieces).toList).map String.ofList =
      pieces := by
  rw [splitOn_eq, String.toList_intercalate, String.toList_singleton,
    List.splitOn_intercalate sep (by simpa using hfree) (by simpa using hne), List.map_map]
  simp

end Text

/-! ## Records -/

/-- A record of the dictionary: a surface and up to nine fields, from the part of
    speech to the pronunciation.  The fields at the end may be missing. -/
structure DictionaryRecord where
  surface : Text
  fields : List String
  length_le : fields.length ≤ 9
  nonempty : ∀ f ∈ fields, f ≠ ""
  comma_free : ∀ f ∈ fields, ',' ∉ f.toList

namespace DictionaryRecord

/-- The field at a place, a star where the record does not go so far. -/
def starred (r : DictionaryRecord) (i : Nat) : String := r.fields[i]?.getD "*"

/-- The record with the part of speech and its details in one field. -/
def joined (r : DictionaryRecord) : Morpheme.JoinedEntry where
  surface := r.surface
  partOfSpeech :=
    (String.singleton ',').intercalate [r.starred 0, r.starred 1, r.starred 2, r.starred 3]
  conjugationType := some (r.starred 4)
  conjugationForm := some (r.starred 5)
  baseForm := some (r.starred 6)
  reading := some (r.starred 7)
  pronunciation := some (r.starred 8)

/-- The surface of the record with the fields that are there. -/
def listed (r : DictionaryRecord) : Text × List (Option String) := (r.surface, r.fields.map some)

/-- The word as the joined record gives it. -/
def fromJoined (r : DictionaryRecord) : Morpheme := Morpheme.ofJoined r.joined

/-- The word as the listed record gives it. -/
def fromListed (r : DictionaryRecord) : Morpheme := Morpheme.ofFields r.listed.1 r.listed.2

variable (r : DictionaryRecord)

theorem comma_not_mem_starred (i : Nat) : ',' ∉ (r.starred i).toList := by
  rw [starred]
  cases h : r.fields[i]? with
  | none => decide
  | some f => exact r.comma_free f (List.mem_of_getElem? h)

theorem ne_empty_of_getElem? {i : Nat} {f : String} (h : r.fields[i]? = some f) : f ≠ "" :=
  r.nonempty f (List.mem_of_getElem? h)

/-- Joining loses nothing: every field of the word is that of the record, or a star. -/
theorem fromJoined_eq :
    r.fromJoined =
      { surface := r.surface, pos := some (r.starred 0), posDetail1 := some (r.starred 1),
        posDetail2 := some (r.starred 2), posDetail3 := some (r.starred 3),
        conjugationType := some (r.starred 4), conjugationForm := some (r.starred 5),
        baseForm := some (r.starred 6), reading := some (r.starred 7),
        pronunciation := some (r.starred 8) } := by
  have hparts : (Text.splitOn ',' r.joined.partOfSpeech.toList).map String.ofList =
      [r.starred 0, r.starred 1, r.starred 2, r.starred 3] := by
    apply Text.splitOn_toList_intercalate (by simp)
    simp only [List.forall_mem_cons, List.not_mem_nil, false_imp_iff, implies_true, and_true]
    exact ⟨r.comma_not_mem_starred 0, r.comma_not_mem_starred 1, r.comma_not_mem_starred 2,
      r.comma_not_mem_starred 3⟩
  simp only [fromJoined, Morpheme.ofJoined, hparts]
  rfl

theorem fromListed_eq :
    r.fromListed =
      { surface := r.surface, pos := r.fields[0]?, posDetail1 := r.fields[1]?,
        posDetail2 := r.fields[2]?, posDetail3 := r.fields[3]?, conjugationType := r.fields[4]?,
        conjugationForm := r.fields[5]?, baseForm := r.fields[6]?, reading := r.fields[7]?,
        pronunciation := r.fields[8]? } := by
  have hfield (i : Nat) : (r.fields.map some)[i]?.join = r.fields[i]? := by
    rw [List.getElem?_map]
    cases r.fields[i]? <;> rfl
  simp only [fromListed, listed, Morpheme.ofFields, hfield]

/-! ## Fields of the two words -/

theorem orStar_starred (i : Nat) :
    Morpheme.orStar (some (r.starred i)) = Morpheme.orStar r.fields[i]? := by
  rw [starred]
  cases r.fields[i]? <;> rfl

/-- A star is no detail that is asked for. -/
theorem starred_beq {i : Nat} {detail : String} (hdetail : detail ≠ "*") :
    (some (r.starred i) == some detail) = (r.fields[i]? == some detail) := by
  rw [starred]
  cases r.fields[i]? with
  | none => simpa using hdetail.symm
  | some f => rfl

theorem base_eq : r.fromJoined.base = r.fromListed.base := by
  -- A star counts as a base form that is missing, which it does not for the sounds.
  rw [fromJoined_eq, fromListed_eq]
  simp only [Morpheme.base, starred]
  cases r.fields[6]? <;> rfl

theorem modifiers_eq : r.fromJoined.modifiers = r.fromListed.modifiers := by
  rw [fromJoined_eq, fromListed_eq]
  simp only [Morpheme.modifiers, r.starred_beq (show "固有名詞" ≠ "*" by decide),
    r.starred_beq (show "数" ≠ "*" by decide)]

end DictionaryRecord

/-! ## Tokens of the two words -/

/-- A sound, with a star for one that is empty. -/
def starSound (sound : String) : String := if sound = "" then "*" else sound

/-- The token with stars for the sounds that are empty. -/
def Token.starSounds (x : Token) : Token :=
  { x with reading := starSound x.reading, pronunciation := starSound x.pronunciation }

namespace DictionaryRecord

variable (r : DictionaryRecord)

/-- A star stands for a sound just when the record does not go so far. -/
theorem starred_eq_starSound (i : Nat) : r.starred i = starSound (r.fields[i]?.getD "") := by
  rw [starred]
  cases h : r.fields[i]? with
  | none => rfl
  | some f => exact (if_neg (r.ne_empty_of_getElem? h)).symm

theorem starred_eq_iff (i : Nat) : r.starred i = r.fields[i]?.getD "" ↔ i < r.fields.length := by
  rw [starred]
  cases h : r.fields[i]? with
  | none => simpa using List.getElem?_eq_none_iff.1 h
  | some f => simpa using (List.getElem?_eq_some_iff.1 h).1

/-- The two tokens of a record differ in nothing but the empty sounds. -/
theorem toToken_fromJoined (offset : Int) :
    r.fromJoined.toToken offset = (r.fromListed.toToken offset).starSounds := by
  simp only [Token.starSounds, Morpheme.toToken, base_eq, modifiers_eq]
  simp only [fromJoined_eq, fromListed_eq, orStar_starred, Option.getD_some]
  rw [starred_eq_starSound, starred_eq_starSound]

/-- The two tokens of a record are the same just when it has a pronunciation. -/
theorem toToken_eq_iff (offset : Int) :
    r.fromJoined.toToken offset = r.fromListed.toToken offset ↔ r.fields.length = 9 := by
  have hle := r.length_le
  constructor
  · -- The pronunciation is the last field, so a record that has it has all of them.
    intro h
    have hpronunciation : r.starred 8 = r.fields[8]?.getD "" := by
      simpa only [Morpheme.toToken, fromJoined_eq, fromListed_eq, Option.getD_some] using
        congrArg Token.pronunciation h
    have := (r.starred_eq_iff 8).1 hpronunciation
    omega
  · intro hlength
    have hreading : r.starred 7 = r.fields[7]?.getD "" := (r.starred_eq_iff 7).2 (by omega)
    have hpronunciation : r.starred 8 = r.fields[8]?.getD "" := (r.starred_eq_iff 8).2 (by omega)
    rw [toToken_fromJoined]
    simp only [Token.starSounds, Morpheme.toToken, fromListed_eq]
    rw [← starred_eq_starSound, ← starred_eq_starSound, hreading, hpronunciation]

end DictionaryRecord

/-! ## Rows of tokens -/

section Rows

variable {α : Type} {f g : α → Morpheme}

/-- Words with the same surfaces are found at the same places. -/
theorem anchorFrom_map_eq_map {change : Token → Token}
    (hsurface : ∀ a, (f a).surface = (g a).surface)
    (htoken : ∀ a offset, (f a).toToken offset = change ((g a).toToken offset)) (t : Text)
    (cursor : Nat) (as : List α) :
    anchorFrom t cursor (as.map f) = (anchorFrom t cursor (as.map g)).map change := by
  induction as generalizing cursor with
  | nil => rfl
  | cons a as ih =>
    simp only [List.map_cons, anchorFrom, hsurface, htoken, ih]

theorem anchorFrom_map_eq_iff {P : α → Prop} (hsurface : ∀ a, (f a).surface = (g a).surface)
    (htoken : ∀ a offset, (f a).toToken offset = (g a).toToken offset ↔ P a) (t : Text)
    (cursor : Nat) (as : List α) :
    anchorFrom t cursor (as.map f) = anchorFrom t cursor (as.map g) ↔ ∀ a ∈ as, P a := by
  induction as generalizing cursor with
  | nil => simp [anchorFrom]
  | cons a as ih =>
    simp only [List.map_cons, anchorFrom, hsurface, List.cons.injEq, htoken, ih,
      List.forall_mem_cons]

end Rows

/-! ## The two backends -/

/-- The tokens of a text from a backend that is loaded for it. -/
def Backend.tokens (b : Backend) (t : Text) : Except Failure (List Token) :=
  let (ready, tokenizer, _) := Tokenizer.makeReady { backend := b }
  ready.bind fun () => tokenizer.tokenize t

namespace Installation

/-- The tokens of a text from the backend of a name. -/
def tokens (i : Installation) (name : String) (t : Text) : Except Failure (List Token) :=
  (i.backend name).bind fun b => b.tokens t

/-- Both engines are installed, and each gives the records of a text in its own way. -/
structure Presents (i : Installation) (t : Text) (rs : List DictionaryRecord) : Prop where
  installed : ∀ name ∈ "janome" :: fugashiPackages, name ∈ i.packages
  loads : i.loadError = none
  joins : i.janome t = .ok (rs.map DictionaryRecord.joined)
  lists : i.fugashi t = .ok (rs.map DictionaryRecord.listed)

variable {i : Installation} {t : Text} {rs : List DictionaryRecord}

/-- A backend whose packages are there and which loads gives the tokens of its engine's
    words. -/
theorem tokens_backendOf {names : List String} (hinstalled : ∀ name ∈ names, name ∈ i.packages)
    (hloads : i.loadError = none) (name : String) (construction : Construction)
    (engine : Engine) (t : Text) :
    (i.backendOf name names construction engine).tokens t = (engine t).map (anchor t) := by
  have hmissing : i.missing? names = none := by
    rw [missing?, List.find?_eq_none]
    intro n hn
    simpa using hinstalled n hn
  simp only [backendOf, hmissing, hloads]
  rfl

theorem Presents.tokens_janome (h : i.Presents t rs) :
    i.tokens "janome" t = .ok (anchor t (rs.map DictionaryRecord.fromJoined)) := by
  show i.janomeBackend.tokens t = _
  rw [janomeBackend, tokens_backendOf _ h.loads, h.joins]
  · simp only [Except.map, List.map_map]
    rfl
  · intro name hname
    apply h.installed
    simp only [List.mem_singleton] at hname
    simp [hname]

theorem Presents.tokens_fugashi (h : i.Presents t rs) :
    i.tokens "fugashi" t = .ok (anchor t (rs.map DictionaryRecord.fromListed)) := by
  show i.fugashiBackend.tokens t = _
  rw [fugashiBackend, tokens_backendOf _ h.loads, h.lists]
  · simp only [Except.map, List.map_map]
    rfl
  · intro name hname
    exact h.installed name (List.mem_cons_of_mem _ hname)

/-- **One token contract.**  Both backends give tokens for the records of a text, and
    those of the one are those of the other with stars for the empty sounds.  They are
    the same tokens just when every record has all of its nine fields. -/
theorem tokens_agree_iff (h : i.Presents t rs) :
    ∃ xs ys, i.tokens "janome" t = .ok xs ∧ i.tokens "fugashi" t = .ok ys ∧
      xs = ys.map Token.starSounds ∧ (xs = ys ↔ ∀ r ∈ rs, r.fields.length = 9) := by
  have hsurface : ∀ r : DictionaryRecord, r.fromJoined.surface = r.fromListed.surface :=
    fun _ => rfl
  refine ⟨_, _, h.tokens_janome, h.tokens_fugashi, ?_, ?_⟩
  · apply anchorFrom_map_eq_map hsurface
    exact DictionaryRecord.toToken_fromJoined
  · apply anchorFrom_map_eq_iff hsurface
    exact DictionaryRecord.toToken_eq_iff

/-- A word that the dictionary does not have: the record ends with the base form. -/
def unknownWord : DictionaryRecord where
  surface := text "ABC"
  fields := ["名詞", "固有名詞", "組織", "*", "*", "*", "*"]
  length_le := by decide
  nonempty := by decide
  comma_free := by decide

/-- Both engines, which know no word but one. -/
def bothEngines : Installation where
  packages := ["janome", "fugashi", "ipadic"]
  janome := fun _ => .ok [unknownWord.joined]
  fugashi := fun _ => .ok [unknownWord.listed]

theorem bothEngines_presents : bothEngines.Presents (text "ABC") [unknownWord] where
  installed := by decide
  loads := rfl
  joins := rfl
  lists := rfl

theorem tokens_agree_iff_of_unknownWord :
    bothEngines.Presents (text "ABC") [unknownWord] ∧
      ∃ xs ys, bothEngines.tokens "janome" (text "ABC") = .ok xs ∧
        bothEngines.tokens "fugashi" (text "ABC") = .ok ys ∧ xs = ys.map Token.starSounds ∧
        (xs = ys ↔ ∀ r ∈ [unknownWord], r.fields.length = 9) :=
  ⟨bothEngines_presents, tokens_agree_iff bothEngines_presents⟩

/-- The reading that an unknown word does not have is a star from the one backend and
    empty from the other. -/
theorem tokens_differ :
    bothEngines.Presents (text "ABC") [unknownWord] ∧
      (bothEngines.tokens "janome" (text "ABC")).map (·.map Token.reading) = .ok ["*"] ∧
      (bothEngines.tokens "fugashi" (text "ABC")).map (·.map Token.reading) = .ok [""] ∧
      bothEngines.tokens "janome" (text "ABC") ≠ bothEngines.tokens "fugashi" (text "ABC") := by
  have hjoined : (bothEngines.tokens "janome" (text "ABC")).map (·.map Token.reading) =
      .ok ["*"] := by decide +kernel
  have hlisted : (bothEngines.tokens "fugashi" (text "ABC")).map (·.map Token.reading) =
      .ok [""] := by decide +kernel
  refine ⟨bothEngines_presents, hjoined, hlisted, ?_⟩
  intro h
  rw [h, hlisted] at hjoined
  exact absurd hjoined (by decide)

end Installation

end Kousei
