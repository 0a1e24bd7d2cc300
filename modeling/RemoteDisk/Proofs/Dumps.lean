import Mathlib.Algebra.Order.Floor.Div
import Mathlib.Data.List.Forall2
import RemoteDisk.Proofs.Numerals
import RemoteDisk.Text.WordDump

/-!
# Dumps that read back

A dump is words cut into rows of four, a line for each row, and nothing but newlines
between the lines. A reader cuts the text at its newlines and each line at its blanks, and
finds an offset and words where the dump put them: no line holds a newline, and no offset
or word a blank. The dump of some words is the only text that is read as them
(`WordDump.read?_eq_some_iff`).

The format can also be told by its rules, without saying how a line is made. They leave no
choice either (`WordDump.layout_iff`), since a number has only one numeral of a given
shape. `WordDump.render_legible` says both of every dump.
-/

namespace RemoteDisk.WordDump

variable {words row : List UInt32} {l field : List Char} {k : Nat} {text : String}

/-! ## Rows -/

/-- **Rows by their numbers**: there is one for every four items begun, and the one
numbered `k` holds those from number `4 * k` on. -/
theorem rows_eq {α : Type} (items : List α) :
    rows items
      = (List.range (items.length ⌈/⌉ 4)).map fun k => (items.drop (4 * k)).take 4 := by
  fun_induction rows items with
  | case1 => simp
  | case2 a b c d rest ih =>
    have more : (a :: b :: c :: d :: rest).length ⌈/⌉ 4 = rest.length ⌈/⌉ 4 + 1 := by
      simp only [Nat.ceilDiv_eq_add_pred_div, List.length_cons]
      omega
    rw [more, List.range_succ_eq_map, List.map_cons, List.map_map, ih]
    rfl
  | case3 short some full =>
    have few : 0 < short.length ∧ short.length ≤ 4 := by
      match short, some, full with
      | [_], _, _ | [_, _], _, _ | [_, _, _], _, _ => simp
      | a :: b :: c :: d :: rest, _, full => exact (full a b c d rest rfl).elim
    have one : short.length ⌈/⌉ 4 = 1 := by
      rw [Nat.ceilDiv_eq_add_pred_div]
      omega
    rw [one, List.range_one, List.map_singleton, Nat.mul_zero, List.drop_zero,
      List.take_of_length_le few.2]

/-- Rows hold all items, in order. -/
theorem flatten_rows {α : Type} (items : List α) : (rows items).flatten = items := by
  fun_induction rows items with
  | case1 => rfl
  | case2 a b c d rest ih => rw [List.flatten_cons, ih]; rfl
  | case3 short some full => rw [List.flatten_singleton]

/-! ## Lines -/

/-- **The lines of a text**: what its newlines leave of it. The empty text has none. -/
def linesOf (text : String) : List (List Char) :=
  if text = "" then [] else text.toList.splitOn '\n'

theorem linesOf_eq_nil_iff : linesOf text = [] ↔ text = "" := by
  simp [linesOf]

/-- Newlines between them give the text again. -/
theorem intercalate_linesOf (text : String) :
    ['\n'].intercalate (linesOf text) = text.toList := by
  unfold linesOf
  split
  · next empty => rw [empty]; rfl
  · exact List.intercalate_splitOn '\n'

/-- A word as it stands between blanks. -/
def wordField (w : UInt32) : List Char := '0' :: 'x' :: Hex.fixed 8 w.toNat

/-- The offset of a line as it stands before the first blank. -/
def offsetField (k : Nat) : List Char := Hex.padded 4 (16 * k) ++ [':']

/-- Fields that follow one another after blanks are fields between blanks. -/
theorem intercalate_cons_eq (c : Char) (first : List Char) (others : List (List Char)) :
    [c].intercalate (first :: others) = first ++ others.flatMap (c :: ·) := by
  induction others generalizing first with
  | nil => simp
  | cons second others ih =>
    rw [List.intercalate_cons_cons, ih, List.flatMap_cons]
    simp

/-- **A line is an offset and words** with blanks between them. -/
theorem line_eq (k : Nat) (row : List UInt32) :
    line k row = [' '].intercalate (offsetField k :: row.map wordField) := by
  rw [intercalate_cons_eq, offsetField, List.append_assoc, List.flatMap_map]
  rfl

theorem blank_not_mem_wordField (w : UInt32) : ' ' ∉ wordField w := by
  have digits : ' ' ∉ Hex.fixed 8 w.toNat := (Hex.spells_word w).not_mem (by decide)
  simp [wordField, digits]

theorem blank_not_mem_offsetField (k : Nat) : ' ' ∉ offsetField k := by
  have digits : ' ' ∉ Hex.padded 4 (16 * k) :=
    (Hex.pads_padded (by decide) _).not_mem (by decide)
  simp [offsetField, digits]

theorem newline_not_mem_line (k : Nat) (row : List UInt32) : '\n' ∉ line k row := by
  have offset (n : Nat) : '\n' ∉ Hex.padded 4 n :=
    (Hex.pads_padded (by decide) _).not_mem (by decide)
  have digits (w : UInt32) : '\n' ∉ Hex.fixed 8 w.toNat :=
    (Hex.spells_word w).not_mem (by decide)
  simp [line, wordText, offset, digits]

/-- The lines of a dump are as many as its rows. -/
theorem length_lines (words : List UInt32) : (lines words).length = words.length ⌈/⌉ 4 := by
  simp [lines, rows_eq]

/-- Every line of a dump shows the row of its number. -/
theorem getElem_lines (hk : k < (lines words).length) :
    (lines words)[k] = line k ((words.drop (4 * k)).take 4) := by
  simp [lines, rows_eq]

theorem lines_eq_nil_iff : lines words = [] ↔ words = [] := by
  refine ⟨fun empty => ?_, fun empty => by rw [empty]; rfl⟩
  have no_rows : rows words = [] := List.mapIdx_eq_nil_iff.mp empty
  rw [← flatten_rows words, no_rows, List.flatten_nil]

theorem exists_of_mem_lines (h : l ∈ lines words) : ∃ k row, l = line k row := by
  obtain ⟨k, _, rfl⟩ := List.mem_mapIdx.mp h
  exact ⟨k, _, rfl⟩

/-- No line of a dump is empty. -/
theorem nil_not_mem_lines (words : List UInt32) : [] ∉ lines words := fun nothing => by
  obtain ⟨k, row, blank⟩ := exists_of_mem_lines nothing
  simp [line] at blank

/-- **The lines of a dump are read off its text.** -/
theorem linesOf_render (words : List UInt32) : linesOf (render words) = lines words := by
  by_cases none : words = []
  · rw [none]
    exact if_pos rfl
  · have begun : lines words ≠ [] := fun empty => none (lines_eq_nil_iff.mp empty)
    have cut : (chars words).splitOn '\n' = lines words := by
      refine List.splitOn_intercalate '\n' (fun l hl => ?_) begun
      obtain ⟨k, row, rfl⟩ := exists_of_mem_lines hl
      exact newline_not_mem_line k row
    -- a text without characters would be cut into one line that has none
    have full : render words ≠ "" := fun empty => by
      have blank : chars words = [] := by simpa [render] using empty
      rw [blank, List.splitOn_nil] at cut
      exact nil_not_mem_lines words (cut ▸ List.mem_singleton_self [])
    rw [linesOf, if_neg full, render, String.toList_ofList, cut]

theorem eq_render_iff : text = render words ↔ linesOf text = lines words := by
  refine ⟨fun h => h ▸ linesOf_render words, fun h => ?_⟩
  rw [← String.toList_inj, ← intercalate_linesOf, h, render, String.toList_ofList, chars]

/-- No newline ends a dump: an empty line would stand behind it. -/
theorem getLast?_render (words : List UInt32) :
    (render words).toList.getLast? ≠ some '\n' := by
  intro newline
  obtain ⟨front, whole⟩ := List.getLast?_eq_some_iff.mp newline
  have full : render words ≠ "" := fun empty => by simp [empty] at whole
  have last : [] ∈ linesOf (render words) := by
    rw [linesOf, if_neg full, whole, List.splitOn_append_cons_self, List.splitOn_nil]
    simp
  rw [linesOf_render] at last
  exact nil_not_mem_lines words last

/-! ## Reading -/

/-- **A word from its field**: the mark of a hexadecimal number and eight digits. -/
def readWord? : List Char → Option UInt32
  | '0' :: 'x' :: digits =>
    if digits.length = 8 then (Hex.number? digits).map UInt32.ofNat else none
  | _ => none

/-- **The words of the line numbered `k`**, behind the offset that belongs to it. -/
def readLine? (k : Nat) (line : List Char) : Option (List UInt32) :=
  match line.splitOn ' ' with
  | [] => none
  | offset :: fields =>
    if offset.getLast? = some ':' ∧ Hex.Pads 4 (16 * k) offset.dropLast then
      fields.mapM readWord?
    else none

/-- The rows of lines, from the line numbered `k` on. -/
def readLines? : Nat → List (List Char) → Option (List (List UInt32))
  | _, [] => some []
  | k, line :: rest => do
    let row ← readLine? k line
    let others ← readLines? (k + 1) rest
    return row :: others

/-- **The words of a dump.** Its lines have to be as full as those of a dump are. -/
def read? (text : String) : Option (List UInt32) := do
  let found ← readLines? 0 (linesOf text)
  if rows found.flatten = found then return found.flatten else none

/-- A word is read from its own field only. -/
theorem readWord?_eq_some_iff {w : UInt32} : readWord? field = some w ↔ field = wordField w := by
  constructor
  · intro h
    unfold readWord? at h
    split at h
    · next digits =>
      split at h
      · next eight =>
        obtain ⟨n, number, rfl⟩ := Option.map_eq_some_iff.mp h
        obtain ⟨shape, room⟩ := Hex.spells_iff.mp (Hex.number?_eq_some_iff.mp number)
        rw [eight] at shape room
        rw [wordField, UInt32.toNat_ofNat_of_lt' room, ← shape]
      · cases h
    · cases h
  · rintro rfl
    rw [wordField, readWord?, if_pos (Hex.length_fixed 8 _),
      Hex.number?_eq_some_iff.mpr (Hex.spells_word w)]
    exact congrArg some UInt32.ofNat_toNat

theorem mapM_readWord? {fields : List (List Char)} :
    fields.mapM readWord? = some row ↔ fields = row.map wordField := by
  induction fields generalizing row with
  | nil => cases row <;> simp
  | cons field fields ih =>
    simp only [List.mapM_cons, Option.bind_eq_bind, Option.bind_eq_some_iff,
      readWord?_eq_some_iff, ih]
    constructor
    · rintro ⟨w, rfl, others, rfl, same⟩
      cases same
      rfl
    · intro h
      obtain ⟨w, others, rfl, rfl, rfl⟩ := List.map_eq_cons_iff.mp h.symm
      exact ⟨w, rfl, others, rfl, rfl⟩

theorem offsetField_iff {offset : List Char} :
    offset.getLast? = some ':' ∧ Hex.Pads 4 (16 * k) offset.dropLast
      ↔ offset = offsetField k := by
  rw [Hex.pads_iff (by decide)]
  constructor
  · rintro ⟨last, front⟩
    obtain ⟨digits, rfl⟩ := List.getLast?_eq_some_iff.mp last
    rw [List.dropLast_concat] at front
    rw [front, offsetField]
  · rintro rfl
    simp [offsetField]

/-- **A line is read as the row that it shows.** -/
theorem readLine?_eq_some_iff : readLine? k l = some row ↔ l = line k row := by
  rw [line_eq]
  constructor
  · intro h
    have whole : [' '].intercalate (l.splitOn ' ') = l := List.intercalate_splitOn ' '
    unfold readLine? at h
    split at h
    · cases h
    · next offset fields cut =>
      split at h
      · next place => rw [← whole, cut, offsetField_iff.mp place, mapM_readWord?.mp h]
      · cases h
  · rintro rfl
    have cut : ([' '].intercalate (offsetField k :: row.map wordField)).splitOn ' '
        = offsetField k :: row.map wordField := by
      refine List.splitOn_intercalate ' ' (fun f hf => ?_) (List.cons_ne_nil _ _)
      rcases List.mem_cons.mp hf with rfl | hf
      · exact blank_not_mem_offsetField k
      · obtain ⟨w, _, rfl⟩ := List.mem_map.mp hf
        exact blank_not_mem_wordField w
    unfold readLine?
    rw [cut]
    exact (if_pos (offsetField_iff.mpr rfl)).trans (mapM_readWord?.mpr rfl)

theorem readLines?_eq_some_iff {found : List (List UInt32)} {ls : List (List Char)} :
    readLines? k ls = some found
      ↔ ls = found.mapIdx fun i row => line (k + i) row := by
  induction ls generalizing k found with
  | nil => cases found <;> simp [readLines?]
  | cons l ls ih =>
    simp only [readLines?, Option.bind_eq_bind, Option.bind_eq_some_iff,
      readLine?_eq_some_iff, ih]
    constructor
    · rintro ⟨row, rfl, others, rfl, same⟩
      cases same
      simp [Nat.add_assoc, Nat.add_comm 1]
    · intro h
      cases found with
      | nil => simp at h
      | cons row others =>
        rw [List.mapIdx_cons] at h
        obtain ⟨rfl, rfl⟩ := List.cons.inj h
        refine ⟨row, rfl, others, ?_, rfl⟩
        simp [Nat.add_assoc, Nat.add_comm 1]

/-- **A dump is read as its words, and no other text is.** -/
theorem read?_eq_some_iff : read? text = some words ↔ text = render words := by
  rw [eq_render_iff]
  constructor
  · intro h
    obtain ⟨found, read, full⟩ := Option.bind_eq_some_iff.mp h
    split at full
    · next even =>
      cases full
      rw [readLines?_eq_some_iff.mp read, lines, even]
      simp
    · cases full
  · intro h
    have read : readLines? 0 (linesOf text) = some (rows words) :=
      readLines?_eq_some_iff.mpr (by simp [h, lines])
    unfold read?
    rw [read]
    show (if rows (rows words).flatten = rows words then some (rows words).flatten else none)
      = some words
    rw [flatten_rows, if_pos rfl]

/-- Different words have different dumps. -/
theorem render_injective : Function.Injective render := fun words others same => by
  have read : read? (render others) = some words := read?_eq_some_iff.mpr same.symm
  rw [read?_eq_some_iff.mpr rfl] at read
  exact (Option.some.inj read).symm

/-! ## The rules of the format -/

/-- **A field that shows a word**: a blank, the mark of a hexadecimal number, and the word
in eight lower-case digits. -/
def ShowsWord (field : List Char) (w : UInt32) : Prop :=
  ∃ digits, field = ' ' :: '0' :: 'x' :: digits ∧ digits.length = 8
    ∧ Hex.Spells digits w.toNat

/-- **A line that shows a row**, numbered `k`: the byte offset of its first word in four
lower-case digits, or in as many as it takes, a colon, and the words. -/
def ShowsRow (k : Nat) (row : List UInt32) (line : List Char) : Prop :=
  ∃ offset fields, line = offset ++ ':' :: List.flatten fields
    ∧ Hex.Pads 4 (16 * k) offset ∧ List.Forall₂ ShowsWord fields row

/-- **A text that is laid out as a dump of words.** -/
structure Layout (words : List UInt32) (text : String) : Prop where
  /-- There is a line for every four words begun. -/
  number : (linesOf text).length = words.length ⌈/⌉ 4
  /-- Every line shows the words of its number. -/
  shown : ∀ k (hk : k < (linesOf text).length),
    ShowsRow k ((words.drop (4 * k)).take 4) (linesOf text)[k]

theorem showsWord_iff {w : UInt32} : ShowsWord field w ↔ field = wordText w := by
  constructor
  · rintro ⟨digits, rfl, eight, spells⟩
    rw [wordText, ← eight, ← (Hex.spells_iff.mp spells).1]
  · rintro rfl
    exact ⟨_, rfl, Hex.length_fixed 8 _, Hex.spells_word w⟩

theorem forall₂_showsWord {fields : List (List Char)} :
    List.Forall₂ ShowsWord fields row ↔ fields = row.map wordText := by
  have shown : ShowsWord = fun field w => field = wordText w :=
    funext₂ fun _ _ => propext showsWord_iff
  rw [shown, ← List.forall₂_map_right_iff, List.forall₂_eq_eq_eq]

/-- A row is shown by one line and no other. -/
theorem showsRow_iff : ShowsRow k row l ↔ l = line k row := by
  unfold ShowsRow
  simp only [Hex.pads_iff (show 0 < 4 by decide), forall₂_showsWord]
  constructor
  · rintro ⟨_, _, rfl, rfl, rfl⟩
    rw [← List.flatMap_def]
    rfl
  · rintro rfl
    exact ⟨_, _, by rw [← List.flatMap_def]; rfl, rfl, rfl⟩

/-- **Words are laid out by one text** and no other. -/
theorem layout_iff : Layout words text ↔ text = render words := by
  rw [eq_render_iff]
  constructor
  · rintro ⟨number, shown⟩
    refine List.ext_getElem (number.trans (length_lines words).symm) fun k hk hk' => ?_
    rw [showsRow_iff.mp (shown k hk), getElem_lines]
  · intro same
    refine ⟨?_, fun k hk => ?_⟩
    · rw [same, length_lines]
    · simp only [same]
      exact showsRow_iff.mpr (getElem_lines _)

/-! ## Whole dumps -/

/-- **A text that tells its words** to whoever looks at it. -/
structure Legible (words : List UInt32) (text : String) : Prop where
  /-- It is laid out as dumps are. -/
  layout : Layout words text
  /-- No other text is laid out as the dump of these words. -/
  only : ∀ other, Layout words other → other = text
  /-- It is empty where there are no words. -/
  empty : text = "" ↔ words = []
  /-- No newline ends it. -/
  unended : text.toList.getLast? ≠ some '\n'
  /-- It is read as its words. -/
  read : read? text = some words
  /-- No other text is read as these words. -/
  strict : ∀ other, read? other = some words → other = text
  /-- There are no other words of which it is the dump. -/
  apart : ∀ others, render others = text → others = words
  /-- The character code of a word's digit, a sum of bytes, always fits a byte. -/
  codes : ∀ w ∈ words, ∀ i < 8, Hex.code (Hex.nibble w i) < 256
  /-- Every word has all its digits, and they show it. -/
  digits : ∀ w ∈ words, ∃ ds, Hex.nibbleDigits? w = some ds
    ∧ ShowsWord (' ' :: '0' :: 'x' :: ds) w
  /-- An offset is less than the number of bytes that are shown. -/
  offsets : ∀ k < (linesOf text).length, 16 * k < 4 * words.length

/-- **A dump tells its words**, however many there are and whatever they are. -/
theorem render_legible (words : List UInt32) : Legible words (render words) where
  layout := layout_iff.mpr rfl
  only _ h := layout_iff.mp h
  empty := by rw [← linesOf_eq_nil_iff, linesOf_render, lines_eq_nil_iff]
  unended := getLast?_render words
  read := read?_eq_some_iff.mpr rfl
  strict _ h := read?_eq_some_iff.mp h
  apart _ same := render_injective same
  codes w _ i _ := Hex.code_nibble_lt w i
  digits w _ := ⟨_, Hex.nibbleDigits?_eq w, showsWord_iff.mpr rfl⟩
  offsets k hk := by
    rw [linesOf_render, length_lines, Nat.ceilDiv_eq_add_pred_div] at hk
    omega

example : render [0xbb000000, 0xbb000001, 0xbb000002, 0xbb000003, 0xbb000004]
    = "0000: 0xbb000000 0xbb000001 0xbb000002 0xbb000003\n0010: 0xbb000004" := by decide

example : read? "0000: 0x0000000A" = none := by decide

end RemoteDisk.WordDump
