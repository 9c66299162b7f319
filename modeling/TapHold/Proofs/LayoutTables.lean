import TapHold.Proofs.LayoutReading
import TapHold.Proofs.LayoutViews

namespace TapHold

@[ext]
structure Layout.Tables where
  rows : List (List Key)
  left : List Key
  right : List Key
  all : List Key
  hands : Dict Key Hand

namespace Layout
namespace Tables

def empty : Tables := ⟨[], [], [], [], .empty⟩

def push (tables : Tables) (key : Key) (hand : Hand) : Tables :=
  let tables := { tables with hands := tables.hands.insert key hand }
  match hand with
  | .left => { tables with left := tables.left ++ [key] }
  | .right => { tables with right := tables.right ++ [key] }

-- The keys of a row that have been read stand beside the tables until the row is complete.
def enter (state : Tables × List Key) (entry : Key × Hand) :
    Except LayoutError (Tables × List Key) :=
  if state.1.hands.contains entry.1 then .error (.duplicateKey entry.1)
  else .ok (state.1.push entry.1 entry.2, state.2 ++ [entry.1])

def enterGroup (hand : Hand) (state : Tables × List Key) (group : List Char) :
    Except LayoutError (Tables × List Key) :=
  (Text.words group).foldlM (fun state word => enter state (⟨String.ofList word⟩, hand)) state

def addLine (tables : Tables) (line : String) : Except LayoutError Tables :=
  match Text.pieces (· == '|') line.toList with
  | [left, right] => do
    let state ← enterGroup .left (tables, []) left
    let state ← enterGroup .right state right
    if state.2 = [] then .error (.emptyRow state.1.rows.length)
    else .ok { state.1 with rows := state.1.rows ++ [state.2] }
  | [] | [_] => .error (.missingDelimiter tables.rows.length line)
  | _ => .error (.extraDelimiter tables.rows.length line)

def ofLines (lines : List String) : Except LayoutError Tables := do
  let tables ← lines.foldlM addLine empty
  return { tables with all := tables.left ++ tables.right }

def physical? (tables : Tables) (key : Key) : Option (Key × Hand) :=
  tables.hands.entries.find? (·.1 = key)

structure Answers (tables : Tables) (layout : Layout) : Prop where
  contains : ∀ key, tables.hands.contains key = layout.contains key
  hand : ∀ key, tables.hands.get? key = layout.handOf? key
  physical : ∀ key, tables.physical? key = (layout.handOf? key).map fun hand => (key, hand)
  placed : ∀ key, layout.placed? key =
    (tables.physical? key).map fun place => s!"{place.1.name} ({place.2.text})"

structure Entered (before after : Tables × List Key) (entries : List (Key × Hand)) : Prop where
  rows : after.1.rows = before.1.rows
  left : after.1.left = before.1.left ++ (entries.filter (·.2 = .left)).map Prod.fst
  right : after.1.right = before.1.right ++ (entries.filter (·.2 = .right)).map Prod.fst
  all : after.1.all = before.1.all
  hands : after.1.hands.entries = before.1.hands.entries ++ entries
  row : after.2 = before.2 ++ entries.map Prod.fst

section
variable {before after : Tables × List Key} {entries : List (Key × Hand)} {key : Key} {hand : Hand}

theorem enter_known (known : key ∈ before.1.hands.keys) :
    enter before (key, hand) = .error (.duplicateKey key) :=
  if_pos (decide_eq_true known)

theorem enter_fresh (fresh : key ∉ before.1.hands.keys) :
    ∃ next, enter before (key, hand) = .ok next ∧ Entered before next [(key, hand)] := by
  have entered : (before.1.hands.insert key hand).entries =
      before.1.hands.entries ++ [(key, hand)] := Dict.put_fresh fresh
  refine ⟨_, if_neg (by simpa [Dict.contains] using fresh), ?_⟩
  cases hand <;> exact ⟨rfl, by simp [push], by simp [push], rfl, entered, rfl⟩

theorem Entered.trans {middle : Tables × List Key} {further : List (Key × Hand)}
    (first : Entered before middle entries) (second : Entered middle after further) :
    Entered before after (entries ++ further) where
  rows := second.rows.trans first.rows
  left := by rw [second.left, first.left, List.filter_append, List.map_append, List.append_assoc]
  right := by
    rw [second.right, first.right, List.filter_append, List.map_append, List.append_assoc]
  all := second.all.trans first.all
  hands := by rw [second.hands, first.hands, List.append_assoc]
  row := by rw [second.row, first.row, List.map_append, List.append_assoc]

theorem Entered.keys (entered : Entered before after entries) :
    after.1.hands.keys = before.1.hands.keys ++ entries.map Prod.fst := by
  unfold Dict.keys
  rw [entered.hands, List.map_append]

-- The pass goes on for as long as no key comes again, and the first that does stops it.
theorem enter_all (fresh : repeated? before.1.hands.keys (entries.map Prod.fst) = none) :
    ∃ next, entries.foldlM enter before = .ok next ∧ Entered before next entries := by
  induction entries generalizing before with
  | nil => exact ⟨before, rfl, rfl, by simp, by simp, rfl, by simp, by simp⟩
  | cons entry rest ih =>
    rw [List.map_cons, repeated?] at fresh
    split at fresh
    · cases fresh
    · rename_i absent
      obtain ⟨middle, here, entered⟩ := enter_fresh absent
      obtain ⟨next, read, further⟩ := ih (entered.keys ▸ fresh)
      exact ⟨next, bind_ok.2 ⟨middle, here, read⟩, entered.trans further⟩

theorem enter_again (again : repeated? before.1.hands.keys (entries.map Prod.fst) = some key) :
    entries.foldlM enter before = .error (.duplicateKey key) := by
  induction entries generalizing before with
  | nil => cases again
  | cons entry rest ih =>
    rw [List.map_cons, repeated?] at again
    split at again
    · rename_i known
      cases again
      exact bind_error.2 (.inl (enter_known known))
    · rename_i absent
      obtain ⟨middle, here, entered⟩ := enter_fresh absent
      exact bind_error.2 (.inr ⟨middle, here, ih (entered.keys ▸ again)⟩)

theorem enterGroup_entries (group : List Char) :
    enterGroup hand before group =
      ((Text.words group).map fun word => ((⟨String.ofList word⟩ : Key), hand)).foldlM enter
        before := by
  rw [List.foldlM_map]
  rfl

theorem enterGroups (left right : List Char) :
    (do enterGroup .right (← enterGroup .left before left) right) =
      (Row.ofGroups left right).placed.foldlM enter before := by
  simp only [enterGroup_entries, Row.placed, Row.ofGroups, List.foldlM_append, List.map_map]
  rfl

end
end Tables

section
variable {layout : Layout}

def pending (layout : Layout) : Tables where
  rows := layout.rows.map Row.keys
  left := layout.left
  right := layout.right
  all := []
  hands := layout.hands

def tables (layout : Layout) : Tables := { layout.pending with all := layout.all }

theorem placed_side (row : Row) (hand : Hand) :
    (row.placed.filter (·.2 = hand)).map Prod.fst = row.side hand := by
  cases hand <;> simp [Row.placed, Row.side, List.filter_map, Function.comp_def]

theorem pending_added {next : Layout} {row : Row} {state : Tables × List Key}
    (rows : next.rows = layout.rows ++ [row])
    (entered : Tables.Entered (layout.pending, []) state row.placed) :
    { state.1 with rows := state.1.rows ++ [row.keys] } = next.pending := by
  have whole {α : Type} (part : Row → List α) :
      next.rows.flatMap part = layout.rows.flatMap part ++ part row := by
    rw [rows, List.flatMap_append, List.flatMap_singleton]
  refine Tables.ext ?_ ?_ ?_ entered.all (Dict.entries_inj ?_)
  · rw [entered.rows, pending, pending, rows, List.map_append]
    rfl
  · exact entered.left.trans (placed_side row .left ▸ (whole Row.left).symm)
  · exact entered.right.trans (placed_side row .right ▸ (whole Row.right).symm)
  · exact entered.hands.trans (whole Row.placed).symm

theorem addLine_pending (layout : Layout) (line : String) :
    layout.pending.addLine line = (layout.addRow line).map pending := by
  have placed : layout.pending.rows.length = layout.rows.length := List.length_map _
  unfold Tables.addLine addRow
  generalize Text.pieces (· == '|') line.toList = pieces
  rcases pieces with _ | ⟨left, _ | ⟨right, _ | ⟨_, _⟩⟩⟩
  · rw [placed]
    rfl
  · rw [placed]
    rfl
  · dsimp only
    rw [← bind_assoc, Tables.enterGroups]
    have seen : repeated? layout.pending.hands.keys
        ((Row.ofGroups left right).placed.map Prod.fst) =
          repeated? layout.written (Row.ofGroups left right).keys := by
      rw [placed_keys, ← hands_keys]
      rfl
    split
    · rename_i again
      rw [Tables.enter_again (seen.trans again)]
      rfl
    · rename_i fresh
      obtain ⟨state, read, entered⟩ :=
        @Tables.enter_all (layout.pending, []) _ (seen.trans fresh)
      have row : state.2 = (Row.ofGroups left right).keys := entered.row.trans (placed_keys _)
      have above : state.1.rows.length = layout.rows.length := by rw [entered.rows, placed]
      rw [read]
      simp only [bind, Except.bind, row, above]
      split
      · rfl
      · exact congrArg Except.ok (pending_added rfl entered)
  · rw [placed]
    rfl

theorem tables_answers (layout : Layout) : layout.tables.Answers layout := by
  have hand (key : Key) : layout.hands.get? key = layout.handOf? key := by
    rw [Dict.get?, hands_find, Option.map_map]
    exact Option.map_id'
  refine ⟨fun key => ?_, hand, layout.hands_find, fun key => ?_⟩
  · rw [Dict.contains_get?]
    exact congrArg Option.isSome (hand key)
  · have physical : layout.tables.physical? key = _ := layout.hands_find key
    rw [physical, Option.map_map]
    rfl

theorem tables_exact (lines : List String) :
    Tables.ofLines lines = (Layout.parse lines).map tables := by
  have side : lines.foldlM Tables.addLine empty.pending = (Layout.parse lines).map pending :=
    foldlM_mirror addLine_pending empty lines
  have start : Tables.empty = empty.pending := rfl
  unfold Tables.ofLines
  rw [start, side]
  cases Layout.parse lines <;> rfl

end

def names (keys : List Key) : List (List Char) := keys.map (·.name.toList)

-- A row written out: the keys of the left hand, a bar, and the keys of the right hand. There are
-- blanks between the keys, and there may be some in other places.
def Shows (layout : Layout) (row : Row) (line : String) : Prop :=
  ∃ left right, line.toList = left ++ '|' :: right ∧
    Text.Spread Text.isBlank (names (layout.group .left row)) left ∧
      Text.Spread Text.isBlank (names (layout.group .right row)) right

def line (layout : Layout) (row : Row) : String :=
  String.ofList ([' '].intercalate (names (layout.group .left row)) ++
    ' ' :: '|' :: ' ' :: [' '].intercalate (names (layout.group .right row)))

theorem line_shows (layout : Layout) (row : Row) : layout.Shows row (layout.line row) := by
  have spread (keys : List Key) : Text.Spread Text.isBlank (names keys) _ :=
    Text.spread_joined (c := ' ') rfl (names keys)
  refine ⟨_, _, ?_, (spread _).behind (c := ' ') rfl, (spread _).widen (c := ' ') rfl⟩
  rw [line, String.toList_ofList, List.append_assoc]
  rfl

def Plain (key : Key) : Prop :=
  Text.Whole (fun c => c == '|' || Text.isBlank c) key.name.toList

theorem tokens_plain {text : List Char} : ∀ key ∈ tokens text, Plain key := by
  intro key member
  rw [tokens_wordsAt] at member
  obtain ⟨word, among, rfl⟩ := List.mem_map.1 member
  rw [Plain, String.toList_ofList]
  exact Text.wordsAt_whole word among

theorem parsed_plain {layout : Layout} {lines : List String}
    (read : Layout.parse lines = .ok layout) :
    ∀ row ∈ layout.rows, ∀ key ∈ row.keys, Plain key := by
  obtain ⟨readable, rows⟩ := parse_ok.1 read
  rw [rows]
  intro row member key within
  obtain ⟨line, among, rfl⟩ := List.mem_map.1 member
  rw [ofLine_keys (readable.divided line among).1] at within
  exact tokens_plain key within

theorem ofList_name (key : Key) : (⟨String.ofList key.name.toList⟩ : Key) = key := by
  rw [String.ofList_toList]

theorem spread_group {keys : List Key} {text : List Char} (plain : ∀ key ∈ keys, Plain key)
    (spread : Text.Spread Text.isBlank (names keys) text) :
    '|' ∉ text ∧ (Text.words text).map (⟨String.ofList ·⟩) = keys := by
  have each : ∀ word ∈ names keys, '|' ∉ word ∧ Text.Whole Text.isBlank word := by
    intro word among
    obtain ⟨key, inside, rfl⟩ := List.mem_map.1 among
    obtain ⟨present, clear⟩ := plain key inside
    exact ⟨fun bar => Bool.false_ne_true (clear '|' bar).symm, present,
      fun c within => (Bool.or_eq_false_iff.1 (clear c within)).2⟩
  constructor
  · intro member
    rcases spread.mem member with blank | ⟨word, among, within⟩
    · cases blank
    · exact (each word among).1 within
  · have words : Text.words text = names keys := spread.words fun word among => (each word among).2
    rw [words, names, List.map_map]
    exact (List.map_congr_left fun key _ => ofList_name key).trans (List.map_id keys)

section
variable {layout : Layout} {row : Row} {line : String}

theorem shows_read (member : row ∈ layout.rows) (plain : ∀ key ∈ row.keys, Plain key)
    (shows : layout.Shows row line) : Divides line ∧ Row.ofLine line = row := by
  obtain ⟨left, right, parts, before, behind⟩ := shows
  rw [group_side member] at before behind
  obtain ⟨undivided, lefts⟩ :=
    spread_group (fun key within => plain key (List.mem_append_left _ within)) before
  obtain ⟨undivided', rights⟩ :=
    spread_group (fun key within => plain key (List.mem_append_right _ within)) behind
  have same : Row.ofLine line = row := by
    rw [← ofGroups_line parts undivided undivided', Row.ofGroups, lefts, rights]
  have one : bars line = 1 := by
    rw [bars, parts, List.count_append, List.count_cons_self, List.count_eq_zero.2 undivided,
      List.count_eq_zero.2 undivided']
  refine ⟨⟨one, ?_⟩, same⟩
  rw [← ofLine_keys one, same]
  exact layout.filled row member

theorem shown_read {rows : List Row} {written : List String}
    (each : ∀ row ∈ rows, ∀ line, layout.Shows row line → Divides line ∧ Row.ofLine line = row)
    (shown : List.Forall₂ layout.Shows rows written) :
    (∀ line ∈ written, Divides line) ∧ written.map Row.ofLine = rows := by
  induction shown with
  | nil => exact ⟨nofun, rfl⟩
  | cons here _ ih =>
    rw [List.forall_mem_cons] at each
    obtain ⟨divides, same⟩ := each.1 _ here
    obtain ⟨others, rows⟩ := ih each.2
    exact ⟨List.forall_mem_cons.2 ⟨divides, others⟩, by rw [List.map_cons, same, rows]⟩

-- However the rows are written out, they are read as the same layout.
theorem shown_parsed {lines written : List String} (read : Layout.parse lines = .ok layout)
    (shown : List.Forall₂ layout.Shows layout.rows written) :
    Layout.parse written = .ok layout := by
  have plain := parsed_plain read
  obtain ⟨divided, rows⟩ :=
    shown_read (fun row member line shows => shows_read member (plain row member) shows) shown
  refine parse_ok.2 ⟨⟨divided, ?_⟩, rows.symm⟩
  rw [← keys_lines divided, rows]
  exact layout.distinct

end

structure Coherent (layout : Layout) : Prop where
  listed : layout.all = layout.left ++ layout.right
  distinct : layout.all.Nodup
  rearranged : layout.all.Perm (layout.rows.flatMap Row.keys)
  filled : ∀ row ∈ layout.rows, row.keys ≠ []
  grouped : ∀ row ∈ layout.rows, row.keys = layout.group .left row ++ layout.group .right row
  contained : ∀ key, layout.contains key = true ↔ key ∈ layout.all
  handed : ∀ key, (layout.handOf? key).isSome ↔ key ∈ layout.all
  left : ∀ key, layout.handOf? key = some .left ↔ key ∈ layout.left
  right : ∀ key, layout.handOf? key = some .right ↔ key ∈ layout.right
  symmetric : ∀ a b, layout.opposed a b = layout.opposed b a
  irreflexive : ∀ a, layout.opposed a a = false
  sides : Equivalence fun a b => layout.opposed a b = false

theorem coherent (layout : Layout) : layout.Coherent where
  listed := rfl
  distinct := layout.all_distinct
  rearranged := layout.all_perm
  filled := layout.filled
  grouped row member := by
    rw [group_side member, group_side member]
    rfl
  contained _ := mem_all.symm
  handed _ := mem_all.symm
  left _ := handOf?_iff
  right _ := handOf?_iff
  symmetric _ _ := opposed_comm
  irreflexive _ := opposed_self
  sides := layout.unopposed_equivalence

theorem layout_round_trip {lines : List String} {layout : Layout}
    (read : Layout.parse lines = .ok layout) :
    Tables.ofLines lines = .ok layout.tables ∧ layout.tables.Answers layout ∧ layout.Coherent ∧
      (∀ written, List.Forall₂ layout.Shows layout.rows written →
        Layout.parse written = .ok layout) ∧
          Layout.parse (layout.rows.map layout.line) = .ok layout := by
  have shown : List.Forall₂ layout.Shows layout.rows (layout.rows.map layout.line) :=
    List.forall₂_map_right_iff.2 (List.forall₂_same.2 fun row _ => layout.line_shows row)
  refine ⟨?_, layout.tables_answers, layout.coherent, fun _ => shown_parsed read,
    shown_parsed read shown⟩
  rw [tables_exact, read]
  rfl

def oneSided : Layout where
  rows := [⟨[⟨"a"⟩, ⟨"s"⟩], []⟩, ⟨[], [⟨"j"⟩, ⟨"k"⟩]⟩, ⟨[⟨"z"⟩], [⟨";"⟩]⟩]
  distinct := by decide
  filled := by decide

theorem oneSided_round_trip :
    Layout.parse ["a\u2003s|", " |\tj  k ", "z|;"] = .ok oneSided ∧
      Layout.parse ["a s | ", " | j k", "z | ;"] = .ok oneSided ∧
        oneSided.opposed ⟨"a"⟩ ⟨"j"⟩ = true := by
  have read : Layout.parse ["a\u2003s|", " |\tj  k ", "z|;"] = .ok oneSided := by decide
  obtain ⟨_, _, _, _, again⟩ := layout_round_trip read
  exact ⟨read, again, by decide⟩

end Layout
end TapHold
