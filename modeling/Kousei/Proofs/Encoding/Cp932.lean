import Kousei.Proofs.Encoding.Utf8

/-! # Code page 932

    The bytes of a text in code page 932.  A text is read from the bytes it
    was written to, but for six characters that are written as the bytes of
    another one (`decode?_eq_of_encode?`). -/

namespace Kousei.Encoding.Cp932

/-! ## Writing -/

/-- The second byte of a place in a row. -/
def second (column : Nat) : Nat := if column < 63 then 0x40 + column else 0x41 + column

/-- The pair of a character in the first row that has it. -/
def rowPair? (c : Char) : Option (Nat × Nat) :=
  rows.findSome? fun (first, row) => (row.toList.idxOf? c).map fun column => (first, second column)

/-- The bytes that a character is read from. -/
def ownBytes? (c : Char) : Option (List UInt8) :=
  let n := c.toNat
  if n ≤ 0x80 then some [.ofNat n]
  else if 0xFF61 ≤ n ∧ n ≤ 0xFF9F then some [.ofNat (0xA1 + (n - 0xFF61))]
  else if n = 0xF8F0 then some [0xA0]
  else if 0xF8F1 ≤ n ∧ n ≤ 0xF8F3 then some [.ofNat (0xFD + (n - 0xF8F1))]
  else if 0xE000 ≤ n ∧ n ≤ 0xE757 then
    some [.ofNat (0xF0 + (n - 0xE000) / 188), .ofNat (second ((n - 0xE000) % 188))]
  else if c = '\uFFFD' then none
  else (rowPair? c).map fun (a, b) => [.ofNat a, .ofNat b]

/-- The character that is written for one.  Six characters have a look-alike
    whose bytes they are given. -/
def standIn (c : Char) : Char :=
  match c with
  | '¢' => '￠'
  | '£' => '￡'
  | '¬' => '￢'
  | '‖' => '∥'
  | '−' => '－'
  | '〜' => '～'
  | c => c

def encodeChar? (c : Char) : Option (List UInt8) := ownBytes? (standIn c)

/-- The bytes of a text, if all its characters have some. -/
def encode? : Text → Option (List UInt8)
  | [] => some []
  | c :: t => do return (← encodeChar? c) ++ (← encode? t)

/-! ## Rows -/

/-- What is known of the characters of a row from a column on: there are not
    too many, none is a byte order mark, and the number of none is that of
    its own two bytes the other way round. -/
def rowFits (first : Nat) : Nat → List Char → Bool
  | _, [] => true
  | column, c :: r =>
    column < 188 && c != '\uFEFF' && c.toNat != second column * 0x100 + first &&
      rowFits first (column + 1) r

theorem rows_fit : ∀ e ∈ rows, rowFits e.1 0 e.2.toList = true := by
  -- Row by row: all rows at once are too much to be evaluated.
  unfold rows
  repeat' first | exact List.forall_mem_nil _ | refine List.forall_mem_cons.2 ⟨?_, ?_⟩
  all_goals
    simp only [String.toList_append]
    repeat rw [String.toList_ofList]
    decide +kernel

theorem rows_nodup : (rows.map Prod.fst).Nodup := by decide +kernel

/-- The first bytes of the rows do not stand on their own, and are not left
    to their users. -/
theorem rows_first : ∀ first ∈ rows.map Prod.fst,
    first < 0x100 ∧ single? first = none ∧ ¬ (0xF0 ≤ first ∧ first ≤ 0xF9) := by
  decide +kernel

theorem rowFits_getElem {first column k : Nat} {row : List Char} {c : Char}
    (h : rowFits first column row = true) (hc : row[k]? = some c) :
    column + k < 188 ∧ c ≠ '\uFEFF' ∧ c.toNat ≠ second (column + k) * 0x100 + first := by
  induction row generalizing column k with
  | nil => simp at hc
  | cons d row ih =>
    simp only [rowFits, Bool.and_eq_true, decide_eq_true_eq, bne_iff_ne, ne_eq] at h
    obtain ⟨⟨⟨hcolumn, hmark⟩, hnumber⟩, hrow⟩ := h
    cases k with
    | zero =>
      obtain rfl : d = c := by simpa using hc
      exact ⟨hcolumn, hmark, hnumber⟩
    | succ k =>
      have hk := ih hrow (k := k) (by simpa using hc)
      rwa [Nat.add_right_comm] at hk

/-- The row of a first byte is found. -/
theorem lookup_rows {first : Nat} {row : String} (h : (first, row) ∈ rows) :
    rows.lookup first = some row := by
  obtain ⟨before, after, hrows⟩ := List.append_of_mem h
  rw [List.lookup_eq_some_iff]
  refine ⟨before, after, hrows, ?_⟩
  intro e he
  have hnodup := rows_nodup
  rw [hrows, List.map_append, List.nodup_append] at hnodup
  have hne := hnodup.2.2 e.1 (List.mem_map_of_mem he) first (by simp)
  simpa using hne.symm

/-! ## Codes -/

/-- The bytes that a character is read from: one that stands on its own, or a
    pair. -/
inductive Code (c : Char) : List UInt8 → Prop where
  | single (b : UInt8) (h : single? b.toNat = some c) : Code c [b]
  | pair (a b : UInt8) (ha : single? a.toNat = none) (h : pair? a.toNat b.toNat = some c) :
    Code c [a, b]

variable {a b : Nat} {c : Char} {bs bytes : List UInt8} {t : Text}

/-- A code at the beginning is read first. -/
theorem Code.decode?_append (h : Code c bs) :
    decode? (bs ++ bytes) = (decode? bytes).map (c :: ·) := by
  cases h with
  | single b h =>
    rw [List.singleton_append, decode?.eq_def]
    simp only [h]
  | pair a b ha h =>
    change decode? (a :: b :: bytes) = _
    rw [decode?.eq_def]
    simp only [ha, h]

theorem column?_second {column : Nat} (h : column < 188) :
    column? (second column) = some column := by
  unfold second column?
  split
  · rw [if_pos (by omega)]
    congr 1
    omega
  · rw [if_neg (by omega), if_pos (by omega)]
    congr 1
    omega

theorem second_lt {column : Nat} (h : column < 188) : second column < 0x100 := by
  unfold second
  split <;> omega

theorem second_column? {column : Nat} (h : column? b = some column) :
    second column = b ∧ column < 188 := by
  unfold column? at h
  unfold second
  split at h
  · cases h
    rw [if_pos (by omega)]
    omega
  · split at h
    · cases h
      rw [if_neg (by omega)]
      omega
    · cases h

/-- A pair is one of those left to their users, or one of a row. -/
theorem pair?_eq_some (h : pair? a b = some c) :
    ∃ column, column? b = some column ∧
      ((0xF0 ≤ a ∧ a ≤ 0xF9 ∧ c.toNat = 0xE000 + (a - 0xF0) * 188 + column) ∨
        ∃ row, (a, row) ∈ rows ∧ row.toList[column]? = some c) := by
  obtain ⟨column, hcolumn, h⟩ := Option.bind_eq_some_iff.1 h
  refine ⟨column, hcolumn, ?_⟩
  split at h
  case isTrue huser =>
    cases h
    have hlt := (second_column? hcolumn).2
    have hvalid : (0xE000 + (a - 0xF0) * 188 + column).isValidChar := by
      right
      omega
    exact .inl ⟨huser.1, huser.2, toNat_charOfNat hvalid⟩
  case isFalse =>
    obtain ⟨row, hrow, h⟩ := Option.bind_eq_some_iff.1 h
    obtain ⟨d, hd, h⟩ := Option.bind_eq_some_iff.1 h
    split at h
    · cases h
    · cases h
      obtain ⟨before, after, hrows, -⟩ := List.lookup_eq_some_iff.1 hrow
      exact .inr ⟨row, by simp [hrows], hd⟩

theorem pair?_user {q column : Nat} (hq : q ≤ 9) (hcolumn : column < 188) :
    single? (0xF0 + q) = none ∧
      pair? (0xF0 + q) (second column) = some (Char.ofNat (0xE000 + q * 188 + column)) := by
  constructor
  · rw [single?, if_neg (by omega), if_neg (by omega), if_neg (by omega), if_neg (by omega)]
  · simp only [pair?, column?_second hcolumn, bind, Option.bind_some]
    rw [if_pos (by omega), Nat.add_sub_cancel_left]
    rfl

theorem pair?_of_mem {row : String} {column : Nat} (hrow : (a, row) ∈ rows)
    (hc : row.toList[column]? = some c) (hvalid : c ≠ '\uFFFD') :
    single? a = none ∧ pair? a (second column) = some c ∧ a < 0x100 ∧ second column < 0x100 := by
  obtain ⟨hlt, hsingle, huser⟩ := rows_first a (List.mem_map_of_mem hrow)
  obtain ⟨hcolumn, -⟩ := rowFits_getElem (rows_fit _ hrow) hc
  rw [Nat.zero_add] at hcolumn
  refine ⟨hsingle, ?_, hlt, second_lt hcolumn⟩
  simp only [pair?, column?_second hcolumn, lookup_rows hrow, hc, huser, hvalid, if_false,
    bind, Option.bind_some]

theorem rowPair?_eq_some (h : rowPair? c = some (a, b)) :
    ∃ row column, (a, row) ∈ rows ∧ row.toList[column]? = some c ∧ b = second column := by
  obtain ⟨⟨first, row⟩, hrow, h⟩ := List.exists_of_findSome?_eq_some h
  obtain ⟨column, hcolumn, hpair⟩ := Option.map_eq_some_iff.1 h
  cases hpair
  obtain ⟨hlt, hc, -⟩ := List.idxOf?_eq_some_iff.1 hcolumn
  exact ⟨row, column, hrow, by rw [List.getElem?_eq_getElem hlt, hc], rfl⟩

theorem Code.of_single? (ha : a < 0x100) (hc : single? a = some c) : Code c [.ofNat a] :=
  .single _ (by rw [UInt8.toNat_ofNat_of_lt' ha, hc])

theorem Code.of_pair? (ha : a < 0x100) (hb : b < 0x100) (hfirst : single? a = none)
    (hc : pair? a b = some c) : Code c [.ofNat a, .ofNat b] :=
  .pair _ _ (by rw [UInt8.toNat_ofNat_of_lt' ha, hfirst])
    (by rw [UInt8.toNat_ofNat_of_lt' ha, UInt8.toNat_ofNat_of_lt' hb, hc])

/-- A character is read from the bytes that it is written as. -/
theorem Code.of_ownBytes? (h : ownBytes? c = some bs) : Code c bs := by
  unfold ownBytes? at h
  dsimp only at h
  have hnumber {n : Nat} (hn : n = c.toNat) : Char.ofNat n = c := by rw [hn, Char.ofNat_toNat]
  split at h
  case isTrue hascii =>
    cases h
    refine of_single? (by omega) ?_
    rw [single?, if_pos hascii, hnumber rfl]
  split at h
  case isTrue hkana =>
    cases h
    refine of_single? (by omega) ?_
    rw [single?, if_neg (by omega), if_neg (by omega), if_pos (by omega), hnumber (by omega)]
  split at h
  case isTrue hspace =>
    cases h
    obtain rfl : c = '\uF8F0' := Char.toNat_inj.1 hspace
    exact .single _ (by decide)
  split at h
  case isTrue hlast =>
    cases h
    refine of_single? (by omega) ?_
    rw [single?, if_neg (by omega), if_neg (by omega), if_neg (by omega), if_pos (by omega),
      hnumber (by omega)]
  split at h
  case isTrue huser =>
    cases h
    have hcolumn : (c.toNat - 0xE000) % 188 < 188 := Nat.mod_lt _ (by decide)
    obtain ⟨hfirst, huser'⟩ := pair?_user (q := (c.toNat - 0xE000) / 188) (by omega) hcolumn
    refine of_pair? (by omega) (second_lt hcolumn) hfirst ?_
    rw [huser', hnumber (by omega)]
  split at h
  case isTrue => cases h
  case isFalse hvalid =>
    obtain ⟨⟨a, b⟩, hab, rfl⟩ := Option.map_eq_some_iff.1 h
    obtain ⟨row, column, hrow, hc, rfl⟩ := rowPair?_eq_some hab
    obtain ⟨hfirst, hpair, ha, hb⟩ := pair?_of_mem hrow hc hvalid
    exact of_pair? ha hb hfirst hpair

/-! ## Bytes of a code -/

theorem single?_eq_some {b : UInt8} (h : single? b.toNat = some c) :
    c ≠ '\uFEFF' ∧ (b.toNat = c.toNat ∨ 0x80 < b.toNat) := by
  have hall : ∀ n < 256,
      (single? n).all (fun c => c != '\uFEFF' && (n == c.toNat || 0x80 < n)) := by
    decide +kernel
  have hb := hall b.toNat b.toNat_lt
  simpa [h] using hb

theorem lt_of_single?_eq_none (h : single? a = none) : 0x80 < a := by
  unfold single? at h
  split at h
  · cases h
  · omega

/-- Both bytes of a pair are beyond the digits. -/
theorem Code.pair_le {a b : UInt8} (h : Code c [a, b]) : 0x40 ≤ a.toNat ∧ 0x40 ≤ b.toNat := by
  cases h with
  | pair _ _ ha h =>
    obtain ⟨column, hcolumn, -⟩ := pair?_eq_some h
    obtain ⟨hsecond, -⟩ := second_column? hcolumn
    have hfirst := lt_of_single?_eq_none ha
    refine ⟨by omega, ?_⟩
    rw [← hsecond, second]
    split <;> omega

/-- The bytes of a code are no control bytes but for a control character. -/
theorem Code.toNat_of_mem (h : Code c bs) {b : UInt8} (hb : b ∈ bs) :
    b.toNat = c.toNat ∨ 32 ≤ b.toNat := by
  cases h with
  | single b' h =>
    obtain rfl := List.mem_singleton.1 hb
    have := (single?_eq_some h).2
    omega
  | pair a' b' ha h =>
    have hpair := (Code.pair a' b' ha h).pair_le
    simp only [List.mem_cons, List.not_mem_nil, or_false] at hb
    obtain rfl | rfl := hb <;> omega

/-- No code is that of a byte order mark. -/
theorem Code.ne_mark (h : Code c bs) : c ≠ '\uFEFF' := by
  cases h with
  | single b h => exact (single?_eq_some h).1
  | pair a b ha h =>
    obtain ⟨column, hcolumn, ⟨hlow, hhigh, hc⟩ | ⟨row, hrow, hc⟩⟩ := pair?_eq_some h
    · have hlt := (second_column? hcolumn).2
      rintro rfl
      have hmark : ('\uFEFF').toNat = 0xFEFF := rfl
      omega
    · exact (rowFits_getElem (rows_fit _ hrow) hc).2.1

/-- The bytes of a pair are not those of the character in UTF-16. -/
theorem Code.toNat_ne {a b : UInt8} (h : Code c [a, b]) :
    c.toNat ≠ b.toNat * 0x100 + a.toNat := by
  cases h with
  | pair _ _ ha h =>
    obtain ⟨column, hcolumn, ⟨hlow, hhigh, hc⟩ | ⟨row, hrow, hc⟩⟩ := pair?_eq_some h
    · obtain ⟨hsecond, hlt⟩ := second_column? hcolumn
      unfold second at hsecond
      split at hsecond <;> omega
    · obtain ⟨hsecond, -⟩ := second_column? hcolumn
      have hne := (rowFits_getElem (rows_fit _ hrow) hc).2.2
      rwa [Nat.zero_add, hsecond] at hne

/-! ## Texts -/

theorem standIn_cases (c : Char) : standIn c = c ∨ 32 ≤ (standIn c).toNat ∧ c.toNat < 0x4000 := by
  fun_cases standIn c with
  | case7 => exact .inl rfl
  | _ => exact .inr (by decide)

theorem isPlainChar_standIn (h : isPlainChar c = true) : isPlainChar (standIn c) = true := by
  obtain hc | ⟨hc, -⟩ := standIn_cases c
  · rwa [hc]
  · simp [isPlainChar, hc]

theorem encode?_cons (h : encode? (c :: t) = some bytes) :
    ∃ bs rest, bytes = bs ++ rest ∧ Code (standIn c) bs ∧ encode? t = some rest := by
  obtain ⟨bs, hbs, h⟩ := Option.bind_eq_some_iff.1 h
  obtain ⟨rest, hrest, h⟩ := Option.bind_eq_some_iff.1 h
  cases h
  exact ⟨bs, rest, rfl, .of_ownBytes? hbs, hrest⟩

/-- A text is read from its bytes, with the characters that are written for
    its own. -/
theorem decode?_eq_of_encode? (h : encode? t = some bytes) :
    decode? bytes = some (t.map standIn) := by
  induction t generalizing bytes with
  | nil =>
    cases h
    rfl
  | cons c t ih =>
    obtain ⟨bs, rest, rfl, hcode, hrest⟩ := encode?_cons h
    rw [hcode.decode?_append, ih hrest]
    rfl

/-- A plain text has no control bytes. -/
theorem isBinaryByte_of_encode? (ht : Plain t) (h : encode? t = some bytes) :
    ∀ b ∈ bytes, isBinaryByte b = false := by
  induction t generalizing bytes with
  | nil =>
    cases h
    exact List.forall_mem_nil _
  | cons c t ih =>
    obtain ⟨hc, ht'⟩ := List.forall_mem_cons.1 ht
    obtain ⟨bs, rest, rfl, hcode, hrest⟩ := encode?_cons h
    intro b hb
    obtain hb | hb := List.mem_append.1 hb
    · obtain hchar | hlow := hcode.toNat_of_mem hb
      · exact isBinaryByte_of_isPlainChar hchar (isPlainChar_standIn hc)
      · exact isBinaryByte_eq_false (.inl hlow)
    · exact ih ht' hrest b hb

theorem Code.length_le (h : Code c bs) : bs.length ≤ 2 := by
  cases h with
  | single => exact Nat.le_succ 1
  | pair => exact Nat.le_refl 2

/-- Two bytes or less for every character. -/
theorem length_le_two_mul (h : encode? t = some bytes) : bytes.length ≤ 2 * t.length := by
  induction t generalizing bytes with
  | nil =>
    cases h
    exact Nat.le_refl 0
  | cons c t ih =>
    obtain ⟨bs, rest, rfl, hcode, hrest⟩ := encode?_cons h
    have hbs := hcode.length_le
    have ht := ih hrest
    rw [List.length_append, List.length_cons]
    omega

end Kousei.Encoding.Cp932
