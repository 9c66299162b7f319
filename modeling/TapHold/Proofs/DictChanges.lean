import Mathlib.Data.List.Find
import Mathlib.Data.List.Nodup
import TapHold.Dict

namespace TapHold

theorem find_only {items : List α} {pass : α → Bool} {chosen : α} (member : chosen ∈ items)
    (passes : pass chosen = true) (only : ∀ item ∈ items, pass item = true → item = chosen) :
    items.find? pass = some chosen := by
  cases found : items.find? pass with
  | none =>
    have missed := List.find?_eq_none.1 found chosen member
    exact absurd passes missed
  | some item => rw [only item (List.mem_of_find?_eq_some found) (List.find?_some found)]

namespace Dict
variable {κ : Type u} {α : Type v}

theorem entries_inj {d other : Dict κ α} (same : d.entries = other.entries) : d = other := by
  cases d
  cases other
  cases same
  rfl

theorem entry_key {d : Dict κ α} {key : κ} {value : α} (member : (key, value) ∈ d.entries) :
    key ∈ d.keys := List.mem_map_of_mem member

section
variable [DecidableEq κ] {d : Dict κ α} {key : κ} {value : α}

theorem entry_of_get? (got : d.get? key = some value) : (key, value) ∈ d.entries := by
  obtain ⟨entry, found, rfl⟩ := Option.map_eq_some_iff.1 got
  have same : entry.1 = key := by simpa using List.find?_some found
  exact same ▸ List.mem_of_find?_eq_some found

theorem find_entry (member : (key, value) ∈ d.entries) :
    d.entries.find? (·.1 = key) = some (key, value) :=
  find_only member (decide_eq_true rfl) fun _ inside same =>
    List.inj_on_of_nodup_map d.distinct inside member (of_decide_eq_true same)

theorem put_fresh {entries : List (κ × α)} (fresh : key ∉ entries.map Prod.fst) :
    put key value entries = entries ++ [(key, value)] := by
  induction entries with
  | nil => rfl
  | cons entry rest ih =>
    rw [List.map_cons, List.mem_cons, not_or] at fresh
    rw [put, if_neg (Ne.symm fresh.1), ih fresh.2]
    rfl

theorem put_entry {entries : List (κ × α)} {entry : κ × α}
    (member : entry ∈ put key value entries) :
    entry = (key, value) ∨ entry ∈ entries := by
  induction entries with
  | nil => exact .inl (List.mem_singleton.1 member)
  | cons first rest ih =>
    rw [put] at member
    split at member
    · rcases List.mem_cons.1 member with new | other
      · exact .inl new
      · exact .inr (List.mem_cons_of_mem _ other)
    · rcases List.mem_cons.1 member with same | later
      · exact .inr (same ▸ List.mem_cons_self)
      · exact (ih later).imp_right (List.mem_cons_of_mem _)

theorem ofList_entry {entries : List (κ × α)} {entry : κ × α}
    (member : entry ∈ (ofList entries).entries) : entry ∈ entries := by
  have filled (d : Dict κ α) (later : entry ∈
      (entries.foldl (fun d entry => d.insert entry.1 entry.2) d).entries) :
      entry ∈ d.entries ∨ entry ∈ entries := by
    clear member
    induction entries generalizing d with
    | nil => exact .inl later
    | cons first rest ih =>
      rcases ih (d.insert first.1 first.2) later with before | behind
      · rcases put_entry before with rfl | earlier
        · exact .inr List.mem_cons_self
        · exact .inl earlier
      · exact .inr (List.mem_cons_of_mem _ behind)
  exact (filled .empty member).resolve_left List.not_mem_nil

theorem get?_entry (member : (key, value) ∈ d.entries) : d.get? key = some value := by
  rw [get?, find_entry member]
  rfl

end

def keep (d : Dict κ α) (pass : κ → Bool) : Dict κ α :=
  ⟨d.entries.filter fun entry => pass entry.1, d.distinct.sublist (List.filter_sublist.map _)⟩

def change (d : Dict κ α) (next : κ → α → α) : Dict κ α :=
  ⟨d.entries.map fun entry => (entry.1, next entry.1 entry.2), by
    rw [List.map_map]
    exact d.distinct⟩

section
variable {d : Dict κ α} {pass : κ → Bool} {next : κ → α → α}

theorem keep_entries : (d.keep pass).entries = d.entries.filter fun entry => pass entry.1 := rfl

theorem keep_keys : (d.keep pass).keys = d.keys.filter pass := by
  unfold keys
  rw [keep_entries, List.filter_map]
  rfl

theorem keep_size : (d.keep pass).size ≤ d.size := List.length_filter_le _ _

theorem change_entries :
    (d.change next).entries = d.entries.map fun entry => (entry.1, next entry.1 entry.2) := rfl

theorem change_keys : (d.change next).keys = d.keys := by
  unfold keys
  rw [change_entries, List.map_map]
  rfl

theorem change_size : (d.change next).size = d.size := List.length_map _

variable [DecidableEq κ] {key : κ}

theorem keep_get? : (d.keep pass).get? key = if pass key then d.get? key else none := by
  unfold get?
  rw [keep_entries, List.find?_filter]
  cases passes : pass key with
  | true =>
    refine congrArg _ (List.find?_congr fun entry _ => ?_)
    by_cases here : entry.1 = key <;> simp [here, passes]
  | false =>
    rw [List.find?_eq_none.2]
    · rfl
    · intro entry _ hit
      simp only [decide_eq_true_eq, Bool.decide_and, Bool.and_eq_true] at hit
      rw [hit.2, passes] at hit
      cases hit.1

theorem change_get? : (d.change next).get? key = (d.get? key).map (next key) := by
  unfold get?
  rw [change_entries, List.find?_map]
  cases found : d.entries.find? (·.1 = key) with
  | none => simp [found]
  | some entry =>
    have same : entry.1 = key := by simpa using List.find?_some found
    simp [found, same]

end

def erase [DecidableEq κ] (d : Dict κ α) (key : κ) : Dict κ α := d.keep (· ≠ key)

end Dict
end TapHold
