import Mathlib.Data.List.Nodup
import TapHold.Layout
import TapHold.Proofs.Outcomes
import TapHold.Proofs.Tokens

namespace TapHold

namespace Layout

def bars (line : String) : Nat := line.toList.count '|'

def tokens (text : List Char) : List Key :=
  ((text.splitOnP fun c => c == '|' || Text.isBlank c).filter (!·.isEmpty)).map
    (⟨String.ofList ·⟩)

def keysIn (line : String) : List Key := tokens line.toList

def Row.ofLine (line : String) : Row :=
  ⟨tokens (line.toList.takeWhile (· ≠ '|')), tokens (line.toList.dropWhile (· ≠ '|'))⟩

def Divides (line : String) : Prop := bars line = 1 ∧ keysIn line ≠ []

structure Readable (lines : List String) : Prop where
  divided : ∀ line ∈ lines, Divides line
  distinct : (lines.flatMap keysIn).Nodup

-- What is wrong with a row that stands below others with these keys. One row may have several
-- keys too many; it is the first that counts.
inductive RowFault (place : Nat) (seen : List Key) (line : String) : LayoutError → Prop where
  | missing (undivided : bars line = 0) :
      RowFault place seen line (.missingDelimiter place line)
  | extra (many : 2 ≤ bars line) : RowFault place seen line (.extraDelimiter place line)
  | duplicate (one : bars line = 1) (parts : keysIn line = front ++ key :: back)
      (known : key ∈ seen ++ front) (first : (seen ++ front).Nodup) :
      RowFault place seen line (.duplicateKey key)
  | empty (one : bars line = 1) (bare : keysIn line = []) :
      RowFault place seen line (.emptyRow place)

theorem tokens_wordsAt (text : List Char) : tokens text =
    (Text.wordsAt (fun c => c == '|' || Text.isBlank c) text).map (⟨String.ofList ·⟩) := by
  unfold tokens Text.wordsAt
  rw [Text.pieces_split]

theorem tokens_bar (left right : List Char) :
    tokens (left ++ '|' :: right) = tokens left ++ tokens right := by
  simp only [tokens_wordsAt]
  rw [Text.wordsAt_joint rfl, List.map_append]

theorem tokens_words {text : List Char} (undivided : '|' ∉ text) :
    tokens text = (Text.words text).map (⟨String.ofList ·⟩) := by
  unfold tokens Text.words
  rw [Text.pieces_split, Text.split_congr fun c member => ?_]
  simp [ne_of_mem_of_not_mem member undivided]

section
variable {line : String} {left right : List Char}

theorem divided_line (one : bars line = 1) :
    ∃ left right, line.toList = left ++ '|' :: right ∧ '|' ∉ left ∧ '|' ∉ right := by
  have present : '|' ∈ line.toList := List.count_pos_iff.1 (by unfold bars at one; omega)
  obtain ⟨left, right, parts, before⟩ := List.eq_append_cons_of_mem present
  refine ⟨left, right, parts, before, ?_⟩
  rw [bars, parts, List.count_append, List.count_cons_self, List.count_eq_zero.2 before] at one
  exact List.count_eq_zero.1 (by omega)

variable (parts : line.toList = left ++ '|' :: right) (before : '|' ∉ left)
include parts before

theorem ofGroups_line (after : '|' ∉ right) : Row.ofGroups left right = Row.ofLine line := by
  have clear : ∀ c ∈ left, decide (c ≠ '|') = true := fun c member =>
    decide_eq_true (ne_of_mem_of_not_mem member before)
  have first : line.toList.takeWhile (· ≠ '|') = left := by
    rw [parts, List.takeWhile_append_of_pos clear]
    simp
  have last : line.toList.dropWhile (· ≠ '|') = [] ++ '|' :: right := by
    rw [parts, List.dropWhile_append_of_pos clear]
    simp
  unfold Row.ofGroups Row.ofLine
  rw [first, last, tokens_bar, tokens_words before, tokens_words after]
  rfl

end

theorem ofLine_keys {line : String} (one : bars line = 1) :
    (Row.ofLine line).keys = keysIn line := by
  obtain ⟨left, right, parts, before, after⟩ := divided_line one
  rw [← ofGroups_line parts before after, keysIn, parts, tokens_bar, tokens_words before,
    tokens_words after]
  rfl

theorem pieces_divided {line : String} (one : bars line = 1) :
    ∃ left right, Text.pieces (· == '|') line.toList = [left, right] ∧
      Row.ofGroups left right = Row.ofLine line := by
  obtain ⟨left, right, parts, before, after⟩ := divided_line one
  have clear {text : List Char} (undivided : '|' ∉ text) : ∀ c ∈ text, (c == '|') = false :=
    fun c member => beq_false_of_ne (ne_of_mem_of_not_mem member undivided)
  refine ⟨left, right, ?_, ofGroups_line parts before after⟩
  rw [Text.pieces_split, parts, List.splitOnP_append_cons left right (by simp),
    List.splitOnP_eq_singleton (clear before), List.splitOnP_eq_singleton (clear after)]
  rfl

theorem pieces_bars (line : String) :
    (Text.pieces (· == '|') line.toList).length = bars line + 1 := by
  rw [Text.pieces_length, bars, List.count_eq_countP]

section
variable (layout : Layout) {line : String}

theorem addRow_missing (undivided : bars line = 0) :
    layout.addRow line = .error (.missingDelimiter layout.rows.length line) := by
  have counted := pieces_bars line
  rw [undivided] at counted
  obtain ⟨piece, alone⟩ := List.length_eq_one_iff.1 counted
  unfold addRow
  rw [alone]

theorem addRow_extra (many : 2 ≤ bars line) :
    layout.addRow line = .error (.extraDelimiter layout.rows.length line) := by
  have counted := pieces_bars line
  unfold addRow
  split
  case h_4 => rfl
  all_goals
    rename_i pieces
    simp only [pieces, List.length_cons, List.length_nil] at counted
    omega

theorem addRow_duplicate {key : Key} (one : bars line = 1)
    (found : repeated? layout.written (keysIn line) = some key) :
    layout.addRow line = .error (.duplicateKey key) := by
  obtain ⟨left, right, pieces, row⟩ := pieces_divided one
  rw [← ofLine_keys one, ← row] at found
  unfold addRow
  rw [pieces]
  dsimp only
  split
  · rename_i other known
    cases found.symm.trans known
    rfl
  · rename_i fresh
    cases found.symm.trans fresh

theorem addRow_empty (one : bars line = 1) (bare : keysIn line = []) :
    layout.addRow line = .error (.emptyRow layout.rows.length) := by
  obtain ⟨left, right, pieces, row⟩ := pieces_divided one
  rw [← ofLine_keys one, ← row] at bare
  unfold addRow
  rw [pieces]
  dsimp only
  split
  · rename_i known
    rw [bare] at known
    cases known
  · rw [dif_pos bare]

theorem addRow_fresh (row : Divides line)
    (fresh : repeated? layout.written (keysIn line) = none) :
    ∃ next, layout.addRow line = .ok next ∧ next.rows = layout.rows ++ [Row.ofLine line] := by
  obtain ⟨one, filled⟩ := row
  obtain ⟨left, right, pieces, row⟩ := pieces_divided one
  rw [← ofLine_keys one, ← row] at fresh filled
  rw [← row]
  unfold addRow
  rw [pieces]
  dsimp only
  split
  · rename_i known
    cases fresh.symm.trans known
  · rw [dif_neg filled]
    exact ⟨_, rfl, rfl⟩

end

theorem repeated_some {seen keys : List Key} {key : Key} (distinct : seen.Nodup) :
    repeated? seen keys = some key ↔ ∃ front back, keys = front ++ key :: back ∧
      key ∈ seen ++ front ∧ (seen ++ front).Nodup := by
  induction keys generalizing seen with
  | nil => simp [repeated?]
  | cons first rest ih =>
    rw [repeated?]
    by_cases known : first ∈ seen
    · rw [if_pos known, Option.some.injEq]
      constructor
      · rintro rfl
        exact ⟨[], rest, rfl, by simpa using known, by simpa using distinct⟩
      · rintro ⟨front, back, parts, _, apart⟩
        cases front with
        | nil => exact (List.cons.inj parts).1
        | cons other front =>
          obtain ⟨rfl, _⟩ := List.cons.inj parts
          exact absurd rfl ((List.nodup_append.1 apart).2.2 first known first List.mem_cons_self)
    · rw [if_neg known, ih (append_distinct distinct known)]
      constructor
      · rintro ⟨front, back, rfl, again, apart⟩
        rw [List.append_assoc] at again apart
        exact ⟨first :: front, back, rfl, again, apart⟩
      · rintro ⟨front, back, parts, again, apart⟩
        cases front with
        | nil =>
          obtain ⟨rfl, _⟩ := List.cons.inj parts
          exact absurd (by simpa using again) known
        | cons other front =>
          obtain ⟨rfl, rfl⟩ := List.cons.inj parts
          refine ⟨front, back, rfl, ?_, ?_⟩
          · rw [List.append_assoc]
            exact again
          · rw [List.append_assoc]
            exact apart

theorem repeated_none_iff {seen keys : List Key} (distinct : seen.Nodup) :
    repeated? seen keys = none ↔ (seen ++ keys).Nodup := by
  refine ⟨fun fresh => repeated_none fresh distinct, fun apart => ?_⟩
  cases found : repeated? seen keys with
  | none => rfl
  | some key =>
    obtain ⟨front, back, rfl, again, _⟩ := (repeated_some distinct).1 found
    rw [← List.append_assoc] at apart
    exact absurd rfl ((List.nodup_append.1 apart).2.2 key again key List.mem_cons_self)

theorem addRow_cases (layout : Layout) (line : String) :
    (∃ error, RowFault layout.rows.length layout.written line error ∧
        layout.addRow line = .error error) ∨
      ∃ next, layout.addRow line = .ok next ∧ Divides line ∧
        (layout.written ++ keysIn line).Nodup ∧
        next.rows = layout.rows ++ [Row.ofLine line] := by
  rcases Nat.lt_trichotomy (bars line) 1 with fewer | one | many
  · have undivided : bars line = 0 := Nat.lt_one_iff.1 fewer
    exact .inl ⟨_, .missing undivided, layout.addRow_missing undivided⟩
  · cases found : repeated? layout.written (keysIn line) with
    | some key =>
      obtain ⟨front, back, parts, known, first⟩ := (repeated_some layout.distinct).1 found
      exact .inl ⟨_, .duplicate one parts known first, layout.addRow_duplicate one found⟩
    | none =>
      by_cases bare : keysIn line = []
      · exact .inl ⟨_, .empty one bare, layout.addRow_empty one bare⟩
      · obtain ⟨next, added, rows⟩ := layout.addRow_fresh ⟨one, bare⟩ found
        have apart := (repeated_none_iff layout.distinct).1 found
        exact .inr ⟨next, added, ⟨one, bare⟩, apart, rows⟩
  · exact .inl ⟨_, .extra many, layout.addRow_extra many⟩

theorem addRow_error {layout : Layout} {line : String} {error : LayoutError} :
    layout.addRow line = .error error ↔
      RowFault layout.rows.length layout.written line error := by
  constructor
  · intro refused
    rcases layout.addRow_cases line with ⟨other, fault, same⟩ | ⟨next, added, _⟩
    · cases same.symm.trans refused
      exact fault
    · cases added.symm.trans refused
  · intro fault
    cases fault with
    | missing undivided => exact layout.addRow_missing undivided
    | extra many => exact layout.addRow_extra many
    | duplicate one parts known first =>
      have found := (repeated_some layout.distinct).2 ⟨_, _, parts, known, first⟩
      exact layout.addRow_duplicate one found
    | empty one bare => exact layout.addRow_empty one bare

theorem written_added {layout next : Layout} {line : String} (one : bars line = 1)
    (rows : next.rows = layout.rows ++ [Row.ofLine line]) :
    next.written = layout.written ++ keysIn line := by
  unfold written
  rw [rows, List.flatMap_append, List.flatMap_singleton, ofLine_keys one]

theorem rows_inj {layout other : Layout} (same : layout.rows = other.rows) : layout = other := by
  cases layout
  cases other
  cases same
  rfl

-- The rows above are all in order, and what is left of them is their number and their keys.
theorem read_rows {start layout : Layout} {lines : List String} :
    lines.foldlM addRow start = .ok layout ↔ (∀ line ∈ lines, Divides line) ∧
      (start.written ++ lines.flatMap keysIn).Nodup ∧
      layout.rows = start.rows ++ lines.map Row.ofLine := by
  induction lines generalizing start with
  | nil =>
    rw [List.foldlM_nil, List.flatMap_nil, List.append_nil, List.map_nil, List.append_nil]
    constructor
    · intro read
      cases read
      exact ⟨List.forall_mem_nil _, layout.distinct, rfl⟩
    · rintro ⟨_, _, rows⟩
      exact congrArg Except.ok (rows_inj rows.symm)
  | cons line rest ih =>
    rw [List.foldlM_cons, bind_ok, List.forall_mem_cons, List.flatMap_cons, List.map_cons,
      ← List.append_assoc]
    constructor
    · rintro ⟨middle, added, read⟩
      obtain ⟨others, apart, rows⟩ := ih.1 read
      rcases start.addRow_cases line with ⟨_, _, refused⟩ | ⟨next, same, divides, _, below⟩
      · cases added.symm.trans refused
      · cases added.symm.trans same
        rw [written_added divides.1 below] at apart
        refine ⟨⟨divides, others⟩, apart, ?_⟩
        rw [rows, below, List.append_assoc]
        rfl
    · rintro ⟨⟨divides, others⟩, apart, rows⟩
      have fresh := (repeated_none_iff start.distinct).2 (List.nodup_append.1 apart).1
      obtain ⟨middle, added, below⟩ := start.addRow_fresh divides fresh
      refine ⟨middle, added, ih.2 ⟨others, ?_, ?_⟩⟩
      · rw [written_added divides.1 below]
        exact apart
      · rw [rows, below, List.append_assoc]
        rfl

theorem keys_lines {lines : List String} (divided : ∀ line ∈ lines, Divides line) :
    (lines.map Row.ofLine).flatMap Row.keys = lines.flatMap keysIn := by
  rw [List.flatMap_map]
  exact List.flatMap_congr fun line member => ofLine_keys (divided line member).1

theorem parse_ok {layout : Layout} {lines : List String} :
    Layout.parse lines = .ok layout ↔ Readable lines ∧ layout.rows = lines.map Row.ofLine := by
  unfold Layout.parse
  rw [read_rows]
  constructor
  · rintro ⟨divided, apart, rows⟩
    exact ⟨⟨divided, apart⟩, rows⟩
  · rintro ⟨readable, rows⟩
    exact ⟨readable.divided, readable.distinct, rows⟩

def Readable.layout {lines : List String} (readable : Readable lines) : Layout where
  rows := lines.map Row.ofLine
  distinct := by
    rw [keys_lines readable.divided]
    exact readable.distinct
  filled := by
    intro row member
    obtain ⟨line, written, rfl⟩ := List.mem_map.1 member
    obtain ⟨one, filled⟩ := readable.divided line written
    rw [ofLine_keys one]
    exact filled

theorem parse_error {lines : List String} {error : LayoutError} :
    Layout.parse lines = .error error ↔ ∃ above line below, lines = above ++ line :: below ∧
      Readable above ∧ RowFault above.length (above.flatMap keysIn) line error := by
  have added {layout : Layout} {above : List String} {line : String}
      (read : above.foldlM addRow empty = .ok layout) : layout.addRow line = .error error ↔
        RowFault above.length (above.flatMap keysIn) line error := by
    obtain ⟨readable, rows⟩ := parse_ok.1 read
    rw [addRow_error, written, rows, keys_lines readable.divided, List.length_map]
  unfold Layout.parse
  rw [foldlM_error]
  constructor
  · rintro ⟨above, line, below, layout, parts, read, refused⟩
    exact ⟨above, line, below, parts, (parse_ok.1 read).1, (added read).1 refused⟩
  · rintro ⟨above, line, below, parts, readable, fault⟩
    have read := parse_ok.2 ⟨readable, (rfl : readable.layout.rows = _)⟩
    exact ⟨above, line, below, readable.layout, parts, read, (added read).2 fault⟩

end Layout

open Layout in
theorem layout_read_exactly (lines : List String) :
    ((∃ layout, Layout.parse lines = .ok layout) ↔ Readable lines) ∧
      (∀ layout, Layout.parse lines = .ok layout → layout.rows = lines.map Row.ofLine) ∧
      ∀ error, Layout.parse lines = .error error ↔ ∃ above line below,
        lines = above ++ line :: below ∧ Readable above ∧ ¬ Readable (above ++ [line]) ∧
          RowFault above.length (above.flatMap keysIn) line error := by
  refine ⟨⟨?_, ?_⟩, fun layout read => (parse_ok.1 read).2, fun error => ?_⟩
  · rintro ⟨layout, read⟩
    exact (parse_ok.1 read).1
  · intro readable
    exact ⟨readable.layout, parse_ok.2 ⟨readable, rfl⟩⟩
  · rw [parse_error]
    constructor
    · rintro ⟨above, line, below, parts, readable, fault⟩
      have refused : Layout.parse (above ++ [line]) = .error error :=
        parse_error.2 ⟨above, line, [], rfl, readable, fault⟩
      refine ⟨above, line, below, parts, readable, fun read => ?_, fault⟩
      cases (parse_ok.2 ⟨read, rfl⟩ : Layout.parse _ = .ok read.layout).symm.trans refused
    · rintro ⟨above, line, below, parts, readable, _, fault⟩
      exact ⟨above, line, below, parts, readable, fault⟩

example : Layout.parse ["a s | j", " | ", "s | k"] = .error (.emptyRow 1) := by decide

end TapHold
