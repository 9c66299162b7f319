import TapHold.Proofs.Acceptance
import TapHold.Proofs.RuleCensus
import TapHold.Proofs.SpelledRules

namespace TapHold

open Text

namespace Keymap

structure Tally where
  keys : Nat
  rules : Nat
  perKey : List (Key × Nat)
  perKind : List (RuleKind × Nat)

namespace Tally

def totals (tally : Tally) : String := s!"{tally.keys} keys, {tally.rules} rules"

def keyRow (entry : Key × Nat) : String := s!"  {entry.1.name} {padLeft 4 (toString entry.2)}"

def kindRow (entry : RuleKind × Nat) : String :=
  s!"  {padRight 24 entry.1.text} {padLeft 5 (toString entry.2)}"

def lines (tally : Tally) : List String :=
  [tally.totals, ""] ++ tally.perKey.map keyRow ++ [""] ++ tally.perKind.map kindRow

def verdict (tally : Tally) (warnings : Nat) : String :=
  s!"Configuration is valid: {tally.keys} keys, {tally.rules} rules, {warnings} warnings"

structure Sums (tally : Tally) (sets : List RuleSet) : Prop where
  perKey : tally.perKey = sets.map fun set => (set.key, set.rules.length)
  keys : tally.keys = tally.perKey.length
  rules_keys : tally.rules = (tally.perKey.map Prod.snd).sum
  rules_kinds : tally.rules = (tally.perKind.map Prod.snd).sum
  perKind : ∀ entry ∈ tally.perKind, entry.2 = (sets.map (·.count entry.1)).sum
  occur : ∀ kind, kind ∈ tally.perKind.map Prod.fst ↔
    ∃ set ∈ sets, ∃ rule ∈ set.rules, rule.kind = kind
  once : (tally.perKind.map Prod.fst).Nodup
  in_order : (tally.perKind.map Prod.fst).Sublist RuleKind.all

theorem totals_unbroken (tally : Tally) : '\n' ∉ tally.totals.toList := by
  have keys := nat_unbroken tally.keys
  have rules := nat_unbroken tally.rules
  simpa [totals, toString] using And.intro keys rules

theorem verdict_unbroken (tally : Tally) (warnings : Nat) :
    '\n' ∉ (tally.verdict warnings).toList := by
  have keys := nat_unbroken tally.keys
  have rules := nat_unbroken tally.rules
  have number := nat_unbroken warnings
  unfold verdict
  simpa [toString] using And.intro keys (And.intro rules number)

theorem keyRow_unbroken {entry : Key × Nat} (spelled : entry.1.Spelled) :
    '\n' ∉ (keyRow entry).toList := by
  have name := unbroken_clear spelled.2
  have size := padLeft_unbroken 4 (nat_unbroken entry.2)
  simpa [keyRow, toString, name] using size

theorem kindRow_unbroken (entry : RuleKind × Nat) : '\n' ∉ (kindRow entry).toList := by
  have name := padRight_unbroken 24 (show '\n' ∉ entry.1.text.toList by cases entry.1 <;> decide)
  have size := padLeft_unbroken 5 (nat_unbroken entry.2)
  simpa [kindRow, toString, name] using size

end Tally

def tally (keymap : Keymap) : Tally where
  keys := keymap.keyCount
  rules := keymap.ruleCount
  perKey := keymap.sets.map fun set => (set.key, set.size)
  perKind := keymap.kindCounts

variable {keymap : Keymap}

theorem sum_nonzero (entries : List (α × Nat)) :
    ((entries.filter (0 < ·.2)).map Prod.snd).sum = (entries.map Prod.snd).sum := by
  induction entries with
  | nil => rfl
  | cons entry rest ih =>
    by_cases counted : 0 < entry.2
    · simp [counted, ih]
    · simp [ih, Nat.eq_zero_of_not_pos counted]

theorem count_sets (keymap : Keymap) (kind : RuleKind) :
    keymap.count kind = (keymap.sets.map (·.count kind)).sum := List.countP_flatMap

theorem count_pos {kind : RuleKind} : 0 < keymap.count kind ↔
    ∃ set ∈ keymap.sets, ∃ rule ∈ set.rules, rule.kind = kind := by
  rw [count, List.countP_pos_iff]
  constructor
  · rintro ⟨rule, member, same⟩
    obtain ⟨set, among, inside⟩ := List.mem_flatMap.1 member
    exact ⟨set, among, rule, inside, of_decide_eq_true same⟩
  · rintro ⟨set, among, rule, inside, same⟩
    exact ⟨rule, List.mem_flatMap.2 ⟨set, among, inside⟩, decide_eq_true same⟩

theorem kindCounts_kinds (keymap : Keymap) :
    keymap.kindCounts.map Prod.fst = RuleKind.all.filter (0 < keymap.count ·) := by
  rw [kindCounts, List.filter_map, List.map_map]
  exact List.map_id _

theorem tally_sums (keymap : Keymap) : keymap.tally.Sums keymap.sets where
  perKey := rfl
  keys := (List.length_map _).symm
  rules_keys := by
    rw [tally, List.map_map]
    exact keymap.ruleCount_sets
  rules_kinds := by
    -- the rules of all keys, taken as those of one
    have kinds := RuleSet.size_kinds ⟨default, keymap.rules⟩
    refine kinds.trans ?_
    rw [tally, kindCounts, sum_nonzero, List.map_map]
    rfl
  perKind entry member := by
    obtain ⟨kind, _, rfl⟩ := List.mem_map.1 (List.mem_filter.1 member).1
    exact keymap.count_sets kind
  occur kind := by
    rw [tally, kindCounts_kinds, List.mem_filter, decide_eq_true_iff, count_pos]
    exact and_iff_right kind.all_complete
  once := by
    rw [tally, kindCounts_kinds]
    exact List.Nodup.filter _ (by decide)
  in_order := by
    rw [tally, kindCounts_kinds]
    exact List.filter_sublist

theorem summary_lined (spelled : ∀ set ∈ keymap.sets, set.key.Spelled) :
    Lined keymap.summary keymap.tally.lines := by
  have keys : Lined (String.join (keymap.sets.map setLine))
      (keymap.tally.perKey.map Tally.keyRow) := by
    have unbroken : ∀ entry ∈ keymap.tally.perKey, '\n' ∉ (Tally.keyRow entry).toList := by
      intro entry member
      obtain ⟨set, among, rfl⟩ := List.mem_map.1 member
      exact Tally.keyRow_unbroken (spelled set among)
    have column := Lined.column Tally.keyRow unbroken
    rw [tally, List.map_map] at column
    exact column
  have kinds := Lined.column Tally.kindRow fun entry (_ : entry ∈ keymap.kindCounts) =>
    Tally.kindRow_unbroken entry
  have top := (Lined.one keymap.tally.totals_unbroken).append .blank
  have parts : keymap.summary = keymap.tally.totals ++ "\n" ++ "\n" ++
      String.join (keymap.sets.map setLine) ++ "\n" ++
      String.join (keymap.kindCounts.map fun entry => Tally.kindRow entry ++ "\n") := by
    simp [summary, kindLine, Tally.totals, Tally.kindRow, tally, toString, String.append_assoc]
  rw [parts]
  exact ((top.append keys).append .blank).append kinds

end Keymap

namespace Command

inductive Query where
  | listing
  | rulesOf (name : String)
  | summary
  | check

namespace Query

def options (config : Option String) (verbose : Bool) : Query → Options
  | listing => ⟨config, false, none, false, verbose⟩
  | rulesOf name => ⟨config, false, some name, false, verbose⟩
  | summary => ⟨config, false, none, true, verbose⟩
  | check => ⟨config, true, none, false, verbose⟩

-- What is printed of a keymap; only the name of a key can be wrong.
def shown? (keymap : Keymap) : Query → Option String
  | listing => some keymap.text
  | rulesOf name => (keymap.rulesFor? ⟨name⟩).map RuleSet.text
  | summary => some keymap.summary
  | check => some (keymap.tally.verdict keymap.findings.length ++ "\n")

theorem view_shown (query : Query) (config : Option String) (verbose : Bool) (keymap : Keymap) :
    (view (query.options config verbose) keymap).toOption = query.shown? keymap := by
  cases query with
  | listing => rfl
  | rulesOf name =>
    simp only [view, options, shown?]
    cases keymap.rulesFor? ⟨name⟩ with
    | none => rfl
    | some set => rfl
  | summary => rfl
  | check =>
    unfold view shown? Keymap.Tally.verdict
    simp [options, Except.toOption, Keymap.tally, toString, String.append_assoc]

inductive Answered (keymap : Keymap) (query : Query) (outcome : Outcome) : Prop
  | shown (printed : query.shown? keymap = some outcome.out) (success : outcome.exit = 0)
  | refused (missing : query.shown? keymap = none) (failure : outcome.exit = 1)
      (silent : outcome.out = "")

theorem run_answered {text : String} {config : Config} {keymap : Keymap} (query : Query)
    (given : Option String) (verbose : Bool) (place : String)
    (parsed : Config.parse text = .ok config) (compiled : Keymap.compile config = .ok keymap) :
    query.Answered keymap (run (query.options given verbose) place (.ok text)) := by
  have answer := answerTo_parsed (query.options given verbose) place parsed compiled
  have shown := query.view_shown given verbose keymap
  unfold run
  cases viewed : view (query.options given verbose) keymap with
  | ok out =>
    rw [viewed] at answer shown
    simp only [answer]
    exact .shown shown.symm rfl
  | error failure =>
    rw [viewed] at answer shown
    simp only [answer]
    exact .refused shown.symm rfl rfl

namespace Answered
variable {keymap : Keymap} {query : Query} {outcome : Outcome} {text : String}

theorem success_iff (answered : query.Answered keymap outcome) :
    outcome.exit = 0 ↔ (query.shown? keymap).isSome := by
  cases answered with
  | shown printed success => simp [printed, success]
  | refused missing failure silent => simp [missing, failure]

theorem failure (answered : query.Answered keymap outcome) (failed : outcome.exit ≠ 0) :
    outcome.exit = 1 ∧ outcome.out = "" := by
  cases answered with
  | shown printed success => exact absurd success failed
  | refused missing failure silent => exact ⟨failure, silent⟩

theorem out (answered : query.Answered keymap outcome) (shows : query.shown? keymap = some text) :
    outcome.out = text := by
  cases answered with
  | shown printed success => exact Option.some.inj (printed.symm.trans shows)
  | refused missing failure silent => cases missing.symm.trans shows

end Answered
end Query

structure Outcome.Shows (outcome : Outcome) (lines : List String) : Prop where
  success : outcome.exit = 0
  printed : Lined outcome.out lines

theorem Query.Answered.shows {keymap : Keymap} {query : Query} {outcome : Outcome} {text : String}
    {lines : List String} (answered : query.Answered keymap outcome)
    (shows : query.shown? keymap = some text) (lined : Lined text lines) : outcome.Shows lines where
  success := answered.success_iff.2 (Option.isSome_of_eq_some shows)
  printed := (answered.out shows).symm ▸ lined

-- What the answers to the queries have to do with the keymap and with each other.
structure Agree (config : Config) (layout : Layout) (keymap : Keymap) (tally : Keymap.Tally)
    (answer : Query → Outcome) : Prop where
  known : ∀ name, (answer (.rulesOf name)).exit = 0 ↔
    ⟨name⟩ ∈ layout.all ∨ ⟨name⟩ ∈ config.triggers
  unknown : ∀ name, (answer (.rulesOf name)).exit ≠ 0 →
    (answer (.rulesOf name)).exit = 1 ∧ (answer (.rulesOf name)).out = ""
  compiled : ∀ name, (answer (.rulesOf name)).exit = 0 ↔ ∃ set ∈ keymap.sets, set.key = ⟨name⟩
  ruled : ∀ set ∈ keymap.sets, (answer (.rulesOf set.key.name)).Shows set.lines
  listed : (answer .listing).Shows ([""].intercalate (keymap.sets.map RuleSet.lines))
  together : (answer .listing).out =
    "\n".intercalate (keymap.sets.map fun set => (answer (.rulesOf set.key.name)).out)
  summed : (answer .summary).Shows tally.lines
  checked : (answer .check).Shows [tally.verdict keymap.findings.length]

theorem Agree.of_answered {config : Config} {layout : Layout} (sound : config.SoundOn layout)
    {answer : Query → Outcome}
    (answered : ∀ query : Query, query.Answered (.ofLayout config layout) (answer query)) :
    Agree config layout (.ofLayout config layout) (Keymap.ofLayout config layout).tally answer := by
  have found : ∀ set ∈ (Keymap.ofLayout config layout).sets,
      Query.shown? (.ofLayout config layout) (.rulesOf set.key.name) = some set.text := by
    intro set member
    obtain ⟨key, ruled, rfl⟩ := Keymap.set_ofLayout member
    exact Option.map_eq_some_iff.2 ⟨_, Keymap.ruled_iff.2 ⟨ruled, rfl⟩, rfl⟩
  have known (name : String) : (answer (.rulesOf name)).exit = 0 ↔
      ⟨name⟩ ∈ Keymap.keysOf config layout := by
    rw [(answered _).success_iff, Query.shown?, Option.isSome_map, Keymap.rulesFor_isSome,
      Keymap.mem_keysOf]
  exact
    { known := fun name => (known name).trans Keymap.mem_keysOf
      unknown := fun _ => (answered _).failure
      compiled := fun name => by rw [known, ← Keymap.ofLayout_keys, List.mem_map]
      ruled := fun set member => (answered _).shows (found set member) (sound.set_lined member)
      listed := (answered .listing).shows rfl (.spaced fun _ => sound.set_lined)
      together := by
        rw [(answered .listing).out rfl, Keymap.text]
        exact congrArg _ (List.map_congr_left fun set member =>
          ((answered _).out (found set member)).symm)
      summed := (answered .summary).shows rfl (Keymap.summary_lined fun _ => sound.set_spelled)
      checked := (answered .check).shows rfl (.one (Keymap.Tally.verdict_unbroken _ _)) }

end Command

-- The blank lines of the listing are those between two keys.
theorem views_agree {text : String} {config : Config} (parsed : Config.parse text = .ok config) :
    ∃ keymap layout tally, Keymap.compile config = .ok keymap ∧
      Layout.parse config.layout = .ok layout ∧ (keymap.sets.map RuleSet.key).Nodup ∧
      (∀ set ∈ keymap.sets, "" ∉ set.lines) ∧ Keymap.Tally.Sums tally keymap.sets ∧
      ∀ given verbose place, Command.Agree config layout keymap tally fun query =>
        Command.run (query.options given verbose) place (.ok text) := by
  obtain ⟨findings, valid⟩ := Config.parse_valid parsed
  obtain ⟨layout, sound, compiled⟩ := Keymap.compile_valid valid
  refine ⟨_, layout, _, compiled, sound.parsed, ?_, ?_, Keymap.tally_sums _, ?_⟩
  · rw [Keymap.ofLayout_keys]
    exact Keymap.keysOf_distinct sound
  · exact fun set _ => set.lines_written
  · intro given verbose place
    exact .of_answered sound fun query => query.run_answered given verbose place parsed compiled

namespace Small

def text : String :=
  "layout = [\"a s | j k\"]\n\n[hrm]\na = \"ctrl\"\ns = \"shift\"\nj = \"opt\"\n\n" ++
  "[layers.nav]\ntrigger = \"space\"\n\n[layers.nav.bindings]\nk = \"left\"\n\n" ++
  "[layers.sub]\ntrigger = \"j\"\nparent = \"nav\"\ninherit = true\n"

def answer (query : Command.Query) : Command.Outcome :=
  Command.run (query.options none false) "config.toml" (.ok text)

theorem text_parsed : Config.parse text = .ok config := by decide +kernel

end Small

theorem small_keymap_viewed :
    Config.parse Small.text = .ok Small.config ∧
      (Small.answer (.rulesOf "space")).exit = 0 ∧
      (Small.answer (.rulesOf " space")).exit = 1 ∧
      (Small.answer .check).Shows ["Configuration is valid: 5 keys, 67 rules, 2 warnings"] := by
  obtain ⟨keymap, layout, tally, compiled, laid, _, _, sums, agree⟩ := views_agree Small.text_parsed
  cases compiled.symm.trans Small.config_compiled
  cases laid.symm.trans Small.config_sound.parsed
  have agree : Command.Agree _ _ _ tally Small.answer := agree none false _
  have keys : tally.keys = 5 := by
    rw [sums.keys, sums.perKey]
    rfl
  have rules : tally.rules = 67 := by
    rw [sums.rules_keys, sums.perKey]
    rfl
  have verdict : tally.verdict 2 = "Configuration is valid: 5 keys, 67 rules, 2 warnings" := by
    unfold Keymap.Tally.verdict
    rw [keys, rules]
    rfl
  refine ⟨Small.text_parsed, (agree.known "space").2 (by decide), ?_, verdict ▸ agree.checked⟩
  exact (agree.unknown " space" (mt (agree.known " space").1 (by decide))).1

end TapHold
