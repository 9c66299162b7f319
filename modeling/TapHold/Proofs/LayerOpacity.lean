import TapHold.Proofs.Dispatch

namespace TapHold.LayerRules

-- The layer has something to send for the key that no layer further up is needed for.
def SendsAlone (config : Config) (layer : Layer) (key : Key) : Prop :=
  (resolve config layer key).isSome ∧ (layer.handoff ∨ layer.parent = none)

instance (config : Config) (layer : Layer) (key : Key) : Decidable (SendsAlone config layer key) :=
  inferInstanceAs (Decidable (_ ∧ _))

structure OnlyOn (config : Config) (now : Valuation) (inner outer : String) : Prop where
  inner_on : now (.active inner) = 1
  outer_on : now (.active outer) = 1
  others_off : ∀ other ∈ config.layers.keys, other ≠ inner → other ≠ outer →
    now (.active other) ≠ 1

section
variable {site : Site} {now : Valuation} {child parent : String} {layer above : Layer}

theorem resolve_none {config : Config} {key : Key} (closed : layer.inherit = false)
    (unbound : layer.bindings.get? key = none) : resolve config layer key = none := by
  simp [resolve, closed, unbound]

theorem decided_sent {entry : String × Layer} {stroke : Stroke}
    (found : (childrenFirst site.config).find? (fun entry => Sends site now entry) = some entry)
    (sent : resolve site.config entry.2 site.key = some stroke) :
    decided site now = some (bound site entry.1 entry.2 stroke) := by
  simp [decided, sends?, found, sent]

theorem decided_swallowed {entry : String × Layer}
    (quiet : ∀ other ∈ childrenFirst site.config, ¬ Sends site now other)
    (member : entry ∈ childrenFirst site.config) (swallows : Swallows site now entry) :
    ∃ name, decided site now = some (swallowed site name) := by
  have unsent : sends? site now = none := by
    rw [sends?, List.find?_eq_none.2 (by simpa using quiet)]
    rfl
  cases found : (childrenFirst site.config).find? fun entry => Swallows site now entry with
  | some first => exact ⟨first.1, by simp [decided, unsent, swallows?, found]⟩
  | none =>
    have missed := List.find?_eq_none.1 found entry member
    simp [swallows] at missed

namespace OnlyOn
variable (on : OnlyOn site.config now child parent)
  (member : (child, layer) ∈ site.config.layers.entries)
  (member' : (parent, above) ∈ site.config.layers.entries)
include on member member'

theorem entry {other : String × Layer} (inside : other ∈ site.config.layers.entries)
    (active : now (.active other.1) = 1) : other = (child, layer) ∨ other = (parent, above) := by
  by_cases isChild : other.1 = child
  · exact .inl (List.inj_on_of_nodup_map site.config.layers.distinct inside member isChild)
  by_cases isParent : other.1 = parent
  · exact .inr (List.inj_on_of_nodup_map site.config.layers.distinct inside member' isParent)
  · exact absurd active (on.others_off _ (Dict.entry_key inside) isChild isParent)

theorem sender (silent : resolve site.config layer site.key = none) {other : String × Layer}
    (inside : other ∈ childrenFirst site.config) (sends : Sends site now other) :
    other = (parent, above) := by
  rcases on.entry member member' (childrenFirst_member inside) sends.2.1 with rfl | same
  · exact absurd sends.1 (by simp [silent])
  · exact same

-- Without handoff the parent waits for a layer further up, and that is off.
theorem parent_sends (sound : site.config.SoundOn site.layout)
    (isChild : layer.parent = some parent) :
    Sends site now (parent, above) ↔ SendsAlone site.config above site.key := by
  have gated : ParentOn now above ↔ above.parent = none := by
    cases up : above.parent with
    | none => simp [ParentOn, up]
    | some top =>
      have off := on.others_off top (sound.parent_known member' up)
        (sound.grandparent_apart member isChild member' up) (sound.parent_apart member' up).symm
      simp [ParentOn, up, off]
  simp [Sends, SendsAlone, on.outer_on, gated]

theorem shows_through (sound : site.config.SoundOn site.layout)
    (isChild : layer.parent = some parent) (silent : resolve site.config layer site.key = none)
    (alone : SendsAlone site.config above site.key) :
    ∃ stroke, resolve site.config above site.key = some stroke ∧
      decided site now = some (bound site parent above stroke) := by
  obtain ⟨stroke, sent⟩ := Option.isSome_iff_exists.1 alone.1
  have sends := (on.parent_sends member member' sound isChild).2 alone
  have found := find_only (member_childrenFirst member') (decide_eq_true sends)
    fun other inside passes => on.sender member member' silent inside (of_decide_eq_true passes)
  exact ⟨stroke, sent, decided_sent found sent⟩

theorem stopped (sound : site.config.SoundOn site.layout) (isChild : layer.parent = some parent)
    (silent : resolve site.config layer site.key = none)
    (quiet : ¬ SendsAlone site.config above site.key) :
    ∃ name, decided site now = some (swallowed site name) := by
  refine decided_swallowed ?_ (member_childrenFirst member) ⟨silent, on.inner_on⟩
  intro other inside sends
  cases on.sender member member' silent inside sends
  exact quiet ((on.parent_sends member member' sound isChild).1 sends)

end OnlyOn
end

-- With the parent active its stroke is sent, although the child does not inherit.
theorem unbound_key_first {config : Config} {findings : List Finding}
    (valid : config.validate = .ok findings) :
    ∃ keymap layout, Keymap.compile config = .ok keymap ∧
      Layout.parse config.layout = .ok layout ∧
      ∀ (key : Key) (set : RuleSet), keymap.rulesFor? key = some set →
        (∀ entry ∈ config.layers.entries, entry.2.trigger ≠ key) →
        ∀ child layer parent above, (child, layer) ∈ config.layers.entries →
          layer.parent = some parent → (parent, above) ∈ config.layers.entries →
          layer.inherit = false → layer.bindings.get? key = none →
          ∀ now, OnlyOn config now child parent →
            (SendsAlone config above key → ∃ stroke, resolve config above key = some stroke ∧
              firstFit none now set.rules =
                some (bound (Keymap.siteOf config layout key) parent above stroke)) ∧
            (¬ SendsAlone config above key → ∃ rule, firstFit none now set.rules = some rule ∧
              rule.kind = .layerSwallow ∧ rule.outputs = []) := by
  obtain ⟨layout, sound, compiled⟩ := Keymap.compile_valid valid
  refine ⟨_, layout, compiled, sound.parsed, ?_⟩
  intro key set ruled free child layer parent above member isChild member' closed unbound now
    (on : OnlyOn (Keymap.siteOf config layout key).config now child parent)
  rw [Keymap.rulesFor_ofLayout] at ruled
  split at ruled
  · cases ruled
    have silent : resolve (Keymap.siteOf config layout key).config layer key = none :=
      resolve_none closed unbound
    have first : firstFit none now (Pipeline.standard.rules (Keymap.siteOf config layout key)) =
        decided (Keymap.siteOf config layout key) now := decided_first free
    refine ⟨fun alone => ?_, fun quiet => ?_⟩
    · obtain ⟨stroke, sent, came⟩ := on.shows_through member member' sound isChild silent alone
      exact ⟨stroke, sent, first.trans came⟩
    · obtain ⟨name, came⟩ := on.stopped member member' sound isChild silent quiet
      exact ⟨_, first.trans came, rfl, rfl⟩
  · cases ruled

def wordsOn : Valuation :=
  fun var => if var = .active "select" ∨ var = .active "words" then 1 else 0

theorem unbound_keys_of_words :
    ∃ keymap layout boundSet freeSet, Keymap.compile Nested.config = .ok keymap ∧
      Layout.parse Nested.config.layout = .ok layout ∧
      keymap.rulesFor? ⟨"j"⟩ = some boundSet ∧ keymap.rulesFor? ⟨"a"⟩ = some freeSet ∧
      (∃ stroke, resolve Nested.config Nested.select ⟨"j"⟩ = some stroke ∧
        firstFit none wordsOn boundSet.rules = some
          (bound (Keymap.siteOf Nested.config layout ⟨"j"⟩) "select" Nested.select stroke)) ∧
      ∃ rule, firstFit none wordsOn freeSet.rules = some rule ∧ rule.kind = .layerSwallow ∧
        rule.outputs = [] := by
  obtain ⟨keymap, layout, compiled, parsed, first⟩ := unbound_key_first Nested.config_valid
  cases compiled.symm.trans Nested.config_compiled
  cases parsed.symm.trans Nested.config_sound.parsed
  have on : OnlyOn Nested.config wordsOn "words" "select" := ⟨by decide, by decide, by decide⟩
  refine ⟨_, _, _, _, compiled, parsed, rfl, rfl, ?_, ?_⟩
  · exact (first ⟨"j"⟩ _ rfl (by decide) "words" Nested.words "select" Nested.select (by decide)
      rfl (by decide) rfl (by decide) wordsOn on).1 (by decide)
  · exact (first ⟨"a"⟩ _ rfl (by decide) "words" Nested.words "select" Nested.select (by decide)
      rfl (by decide) rfl (by decide) wordsOn on).2 (by decide)

-- The layer has no binding for the key and does not inherit, and still the press sends something.
theorem select_shows_through :
    ∃ keymap set rule, Keymap.compile Nested.config = .ok keymap ∧
      keymap.rulesFor? ⟨"j"⟩ = some set ∧
      (∀ entry ∈ Nested.config.layers.entries, entry.2.trigger ≠ ⟨"j"⟩) ∧
      ("words", Nested.words) ∈ Nested.config.layers.entries ∧
      Nested.words.parent = some "select" ∧ Nested.words.inherit = false ∧
      Nested.words.bindings.get? ⟨"j"⟩ = none ∧ OnlyOn Nested.config wordsOn "words" "select" ∧
      firstFit none wordsOn set.rules = some rule ∧ rule.kind = .layerBinding ∧
      rule.outputs = [.plain ⟨"left"⟩] :=
  ⟨_, _, _, Nested.config_compiled, rfl, by decide, by decide, rfl, rfl, by decide,
    ⟨by decide, by decide, by decide⟩, rfl, by decide, by decide⟩

end TapHold.LayerRules
