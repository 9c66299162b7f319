import Mathlib.Data.List.Chain
import TapHold.Proofs.FirstFault

namespace TapHold

namespace Config

-- The way up from a layer until it comes back: the names before the cycle, the name at which the
-- cycle is entered, and those beyond. The last of them has the entry for its parent.
structure Lasso (config : Config) (name : String) (tail : List String) (entry : String)
    (loop : List String) : Prop where
  starts : (tail ++ entry :: loop).head? = some name
  climbs : (tail ++ entry :: loop ++ [entry]).IsChain config.Below
  fresh : (tail ++ entry :: loop).Nodup

variable {config : Config} {seen : List String} {name other entry : String}

theorem below_unique (above : config.Below name other) (also : config.Below name entry) :
    other = entry := Option.some.inj (above.symm.trans also)

theorem Climb.way {looks : Nat} {back : Bool} (climb : config.Climb seen name looks back)
    (again : back = true) (climbs : (seen ++ [name]).IsChain config.Below)
    (distinct : seen.Nodup) :
    ∃ more entry, (more ++ [entry]).head? = some name ∧ entry ∈ seen ++ more ∧
      (seen ++ more).Nodup ∧ (seen ++ more ++ [entry]).IsChain config.Below := by
  induction climb with
  | @back seen name passed =>
    refine ⟨[], name, rfl, ?_, ?_, ?_⟩
    · rw [List.append_nil]
      exact passed
    · rw [List.append_nil]
      exact distinct
    · rw [List.append_nil]
      exact climbs
  | top _ _ => cases again
  | @up seen name parent _ _ fresh above _ ih =>
    have further : (seen ++ [name] ++ [parent]).IsChain config.Below := by
      rw [List.append_assoc]
      exact List.isChain_append_cons_cons.2 ⟨climbs, above, List.isChain_singleton _⟩
    obtain ⟨more, entry, _, passed, distinct', climbs'⟩ :=
      ih again further (append_distinct distinct fresh)
    rw [List.append_assoc seen, List.singleton_append] at passed distinct' climbs'
    exact ⟨name :: more, entry, rfl, passed, distinct', climbs'⟩

theorem lasso_of_circles (circles : config.Circles name) :
    ∃ tail entry loop, config.Lasso name tail entry loop := by
  obtain ⟨_, _, climb⟩ := climb_from config name
  have again := climbsForever_iff.2 circles
  obtain ⟨way, entry, starts, passed, distinct, climbs⟩ :=
    climb.way again (List.isChain_singleton _) List.nodup_nil
  rw [List.nil_append] at passed distinct climbs
  obtain ⟨tail, loop, rfl⟩ := List.append_of_mem passed
  refine ⟨tail, entry, loop, ?_, climbs, distinct⟩
  rw [List.head?_append_of_ne_nil _ (by simp)] at starts
  exact starts

-- Below a cycle there is one way only, so from whatever is above a layer on a cycle the way leads
-- back to it.
theorem cycle_back (cycle : Relation.TransGen config.Below name name)
    (path : Relation.ReflTransGen config.Below name other) :
    Relation.ReflTransGen config.Below other name := by
  induction path with
  | refl => exact .refl
  | tail _ step back =>
    rcases back.cases_head with rfl | ⟨next, also, rest⟩
    · obtain ⟨next, also, rest⟩ := Relation.TransGen.head'_iff.1 cycle
      exact below_unique step also ▸ rest
    · exact below_unique step also ▸ rest

namespace Lasso
variable {tail loop : List String} (lasso : config.Lasso name tail entry loop)
include lasso

theorem paths : (tail ++ entry :: loop ++ [entry]).Pairwise (Relation.TransGen config.Below) :=
  (lasso.climbs.imp fun _ _ => .single).pairwise

theorem cycle : Relation.TransGen config.Below entry entry := by
  have paths := lasso.paths
  rw [List.append_assoc, List.cons_append] at paths
  have first := (List.pairwise_append.1 paths).2.1
  exact List.rel_of_pairwise_cons first (by simp)

theorem closed (path : Relation.ReflTransGen config.Below entry other) :
    other ∈ entry :: loop := by
  induction path with
  | refl => exact List.mem_cons_self
  | @tail passed next _ step inside =>
    obtain ⟨before, after, parts⟩ := List.append_of_mem inside
    have climbs := lasso.climbs
    rw [parts, List.append_assoc, List.append_assoc, List.cons_append] at climbs
    have onward := (List.isChain_append.1 (List.isChain_append.1 climbs).2.1).2.1
    cases after with
    | nil =>
      have above : config.Below passed entry := (List.isChain_cons_cons.1 onward).1
      exact below_unique above step ▸ List.mem_cons_self
    | cons following rest =>
      have above : config.Below passed following := (List.isChain_cons_cons.1 onward).1
      rw [parts, ← below_unique above step]
      simp

theorem on_cycle_iff : Relation.TransGen config.Below name name ↔ tail = [] := by
  constructor
  · intro cycle
    cases tail with
    | nil => rfl
    | cons first rest =>
      cases lasso.starts
      have path : Relation.TransGen config.Below name entry :=
        List.rel_of_pairwise_cons lasso.paths (by simp)
      have inside := lasso.closed (cycle_back cycle path.to_reflTransGen)
      have fresh := lasso.fresh
      rw [List.cons_append, List.nodup_cons, List.mem_append] at fresh
      exact absurd (.inr inside) fresh.1
  · rintro rfl
    cases lasso.starts
    exact lasso.cycle

end Lasso

theorem triggerFaults_shared {earlier rest : List (String × Layer)} {fault : ConfigError}
    (member : fault ∈ triggerFaults earlier rest) :
    ∃ trigger first second, fault = .duplicateTrigger trigger first second := by
  induction rest generalizing earlier with
  | nil => cases member
  | cons entry rest ih =>
    rcases List.mem_append.1 member with here | further
    · split at here
      · cases here
      · exact ⟨_, _, _, List.mem_singleton.1 here⟩
    · exact ih further

theorem first_circling (refused : config.validate = .error (.parentCycle name)) :
    ∃ before after, config.layers.keys = before ++ name :: after ∧
      (∀ earlier ∈ before, ¬ config.Circles earlier) ∧ config.Circles name := by
  have reported := late_reported rfl refused
  rw [cycleFaults, List.head?_append, List.head?_map, List.head?_filter] at reported
  have found : config.layers.keys.find? config.climbsForever = some name := by
    cases first : config.layers.keys.find? config.climbsForever with
    | none =>
      rw [first] at reported
      obtain ⟨_, _, _, other⟩ := triggerFaults_shared (List.mem_of_head? reported)
      cases other
    | some other =>
      rw [first] at reported
      cases reported
      rfl
  obtain ⟨circles, before, after, parts, straight⟩ := List.find?_eq_some_iff_append.1 found
  refine ⟨before, after, parts, ?_, climbsForever_iff.1 circles⟩
  intro earlier member circles
  have straight := straight earlier member
  rw [climbsForever_iff.2 circles] at straight
  cases straight

end Config

theorem reported_cycle {config : Config} {name : String}
    (refused : config.validate = .error (.parentCycle name)) :
    ∃ before after tail entry loop, config.layers.keys = before ++ name :: after ∧
      (∀ earlier ∈ before, ¬ config.Circles earlier) ∧
      config.Lasso name tail entry loop ∧
      Relation.TransGen config.Below entry entry ∧
      (Relation.TransGen config.Below name name ↔ tail = []) := by
  obtain ⟨before, after, parts, straight, circles⟩ := Config.first_circling refused
  obtain ⟨tail, entry, loop, lasso⟩ := Config.lasso_of_circles circles
  exact ⟨before, after, tail, entry, loop, parts, straight, lasso, lasso.cycle, lasso.on_cycle_iff⟩

-- The only cycle is a layer that is its own parent. The layer declared before it, whose parent it
-- is, is the one that is named.
namespace Tailed

def config : Config :=
  { Config.empty with
    layout := ["a s | j k"]
    layers := .ofList [("nav", .triggeredBy ⟨"space"⟩),
      ("words", (Layer.triggeredBy ⟨"escape"⟩).setParent "select"),
      ("select", (Layer.triggeredBy ⟨"tab"⟩).setParent "select")] }

theorem words_refused : config.validate = .error (.parentCycle "words") := by decide

theorem words_leads_to_cycle :
    config.validate = .error (.parentCycle "words") ∧
      ∃ before after tail entry loop, config.layers.keys = before ++ "words" :: after ∧
        config.Lasso "words" tail entry loop ∧
        (Relation.TransGen config.Below "words" "words" ↔ tail = []) := by
  obtain ⟨before, after, tail, entry, loop, parts, _, lasso, _, on⟩ := reported_cycle words_refused
  exact ⟨words_refused, before, after, tail, entry, loop, parts, lasso, on⟩

theorem words_off_cycle :
    config.validate = .error (.parentCycle "words") ∧
      ¬ Relation.TransGen config.Below "words" "words" ∧
      Relation.TransGen config.Below "select" "select" := by
  have words : config.Below "words" "select" := rfl
  have select : config.Below "select" "select" := rfl
  have above {name : String} (path : Relation.TransGen config.Below "words" name) :
      name = "select" := by
    induction path with
    | single step => exact Config.below_unique step words
    | tail _ step same =>
      subst same
      exact Config.below_unique step select
  exact ⟨words_refused, fun cycle => absurd (above cycle) (by decide), .single select⟩

end Tailed
end TapHold
