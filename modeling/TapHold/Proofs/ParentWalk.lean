import Mathlib.Data.List.Perm.Subperm
import Mathlib.Logic.Relation
import TapHold.Proofs.Faultless

namespace TapHold.Config

def Below (config : Config) (name parent : String) : Prop := config.parentOf? name = some parent

-- Some layer on the way up, or the first one, is its own proper ancestor.
def Circles (config : Config) (name : String) : Prop :=
  ∃ ancestor, Relation.ReflTransGen config.Below name ancestor ∧
    Relation.TransGen config.Below ancestor ancestor

-- The walk from a name after it has passed others: how many names it looks at, and whether it comes
-- back. Nothing is assumed of the parents, which may be missing.
inductive Climb (config : Config) : List String → String → Nat → Bool → Prop where
  | back (passed : name ∈ seen) : Climb config seen name 1 true
  | top (fresh : name ∉ seen) (last : config.parentOf? name = none) :
      Climb config seen name 1 false
  | up (fresh : name ∉ seen) (above : config.parentOf? name = some parent)
      (further : Climb config (seen ++ [name]) parent looks back) :
      Climb config seen name (looks + 1) back

variable {config : Config} {seen : List String} {name parent : String}

theorem Climb.unique {looks other : Nat} {back again : Bool}
    (first : config.Climb seen name looks back) (second : config.Climb seen name other again) :
    other = looks ∧ again = back := by
  induction first generalizing other again with
  | back passed =>
    cases second with
    | back _ => exact ⟨rfl, rfl⟩
    | top fresh _ | up fresh _ _ => exact absurd passed fresh
  | top fresh last =>
    cases second with
    | back passed => exact absurd passed fresh
    | top _ _ => exact ⟨rfl, rfl⟩
    | up _ above _ => cases last.symm.trans above
  | up fresh above _ ih =>
    cases second with
    | back passed => exact absurd passed fresh
    | top _ last => cases last.symm.trans above
    | up _ also further =>
      cases above.symm.trans also
      obtain ⟨same, alike⟩ := ih further
      exact ⟨congrArg Nat.succ same, alike⟩

theorem parent_named (above : config.parentOf? name = some parent) :
    name ∈ config.layers.keys := by
  rw [Dict.mem_keys]
  unfold parentOf? at above
  cases found : config.layers.get? name with
  | none => simp [found] at above
  | some layer => rfl

-- The names passed are layers, so there are only so many of them. The induction is on how many
-- more there can be.
theorem climb_ends {more : Nat} (distinct : seen.Nodup)
    (known : ∀ passed ∈ seen, passed ∈ config.layers.keys)
    (room : seen.length + more = config.layers.size + 1) (name : String) :
    ∃ looks ≤ more,
      config.Climb seen name looks (!decide (seen ++ config.lineage more name).Nodup) := by
  induction more generalizing seen name with
  | zero =>
    have bounded : seen.length ≤ config.layers.keys.length :=
      (List.subperm_of_subset distinct known).length_le
    have counted : config.layers.keys.length = config.layers.size := List.length_map _
    omega
  | succ more ih =>
    rw [lineage_succ]
    by_cases passed : name ∈ seen
    · have repeats (above : List String) : ¬ (seen ++ name :: above).Nodup := by
        intro apart
        exact (List.nodup_append.1 apart).2.2 name passed name (List.mem_cons_self ..) rfl
      refine ⟨1, by omega, ?_⟩
      simpa [repeats] using Climb.back passed
    · have longer : (seen ++ [name]).Nodup := append_distinct distinct passed
      cases above : config.parentOf? name with
      | none =>
        refine ⟨1, by omega, ?_⟩
        simpa [longer] using Climb.top passed above
      | some parent =>
        have known' : ∀ other ∈ seen ++ [name], other ∈ config.layers.keys := by
          intro other member
          rcases List.mem_append.1 member with earlier | last
          · exact known other earlier
          · cases List.mem_singleton.1 last
            exact parent_named above
        have room' : (seen ++ [name]).length + more = config.layers.size + 1 := by
          rw [List.length_append, List.length_singleton]
          omega
        obtain ⟨looks, bounded, further⟩ := ih longer known' room' parent
        refine ⟨looks + 1, by omega, ?_⟩
        rw [List.append_assoc] at further
        exact .up passed above further

theorem circles_above (above : config.parentOf? name = some parent) :
    config.Circles name ↔ config.Circles parent := by
  constructor
  · rintro ⟨ancestor, path, cycle⟩
    rcases path.cases_head with rfl | ⟨next, step, rest⟩
    · -- the name itself is on the cycle, and so is its parent
      obtain ⟨next, step, rest⟩ := Relation.TransGen.head'_iff.1 cycle
      cases above.symm.trans step
      exact ⟨name, rest, cycle⟩
    · cases above.symm.trans step
      exact ⟨ancestor, rest, cycle⟩
  · rintro ⟨ancestor, path, cycle⟩
    exact ⟨ancestor, path.head above, cycle⟩

theorem circles_top (last : config.parentOf? name = none) : ¬ config.Circles name := by
  rintro ⟨ancestor, path, cycle⟩
  have leaves : ∃ next, config.Below name next := by
    rcases path.cases_head with rfl | ⟨next, step, _⟩
    · obtain ⟨next, step, _⟩ := Relation.TransGen.head'_iff.1 cycle
      exact ⟨next, step⟩
    · exact ⟨next, step⟩
  obtain ⟨next, step⟩ := leaves
  cases last.symm.trans step

theorem Climb.circles {looks : Nat} {back : Bool} (climb : config.Climb seen name looks back)
    (path : ∀ passed ∈ seen, Relation.TransGen config.Below passed name) :
    back = true ↔ config.Circles name := by
  induction climb with
  | back passed => exact iff_of_true rfl ⟨_, .refl, path _ passed⟩
  | top _ last => exact iff_of_false Bool.false_ne_true (circles_top last)
  | up _ above _ ih =>
    rw [circles_above above]
    apply ih
    intro passed member
    rcases List.mem_append.1 member with earlier | last
    · exact (path passed earlier).tail above
    · cases List.mem_singleton.1 last
      exact .single above

theorem climb_from (config : Config) (name : String) :
    ∃ looks ≤ config.layers.size + 1, config.Climb [] name looks (config.climbsForever name) :=
  climb_ends List.nodup_nil nofun (Nat.zero_add _) name

theorem climbsForever_iff : config.climbsForever name = true ↔ config.Circles name := by
  obtain ⟨_, _, climb⟩ := climb_from config name
  exact climb.circles nofun

theorem circles_none : (∀ name ∈ config.layers.keys, ¬ config.Circles name) ↔
    ∀ name ∈ config.layers.keys, ¬ Relation.TransGen config.Below name name := by
  constructor
  · intro straight name member cycle
    exact straight name member ⟨name, .refl, cycle⟩
  · rintro straight name _ ⟨ancestor, _, cycle⟩
    obtain ⟨next, step, _⟩ := Relation.TransGen.head'_iff.1 cycle
    exact straight ancestor (parent_named step) cycle

end TapHold.Config
