import TapHold.Distinct

namespace TapHold

structure Dict (κ : Type u) (α : Type v) where
  entries : List (κ × α)
  distinct : (entries.map Prod.fst).Nodup
  deriving DecidableEq

namespace Dict
variable {κ : Type u} {α : Type v}

def empty : Dict κ α := ⟨[], by simp⟩

instance : EmptyCollection (Dict κ α) := ⟨empty⟩
instance : Inhabited (Dict κ α) := ⟨empty⟩

def keys (d : Dict κ α) : List κ := d.entries.map Prod.fst
def values (d : Dict κ α) : List α := d.entries.map Prod.snd
def size (d : Dict κ α) : Nat := d.entries.length

variable [DecidableEq κ]

def get? (d : Dict κ α) (key : κ) : Option α :=
  (d.entries.find? (·.1 = key)).map Prod.snd

def contains (d : Dict κ α) (key : κ) : Bool := key ∈ d.keys

-- A name that is already there keeps its place.
def put (key : κ) (value : α) : List (κ × α) → List (κ × α)
  | [] => [(key, value)]
  | entry :: rest =>
    if entry.1 = key then (key, value) :: rest else entry :: put key value rest

theorem put_keys (key : κ) (value : α) (entries : List (κ × α)) :
    (put key value entries).map Prod.fst =
      if key ∈ entries.map Prod.fst then entries.map Prod.fst
      else entries.map Prod.fst ++ [key] := by
  induction entries with
  | nil => simp [put]
  | cons entry rest ih =>
    by_cases here : entry.1 = key
    · simp [put, here]
    · have other : ¬ key = entry.1 := fun same => here same.symm
      by_cases later : key ∈ rest.map Prod.fst <;>
        simp only [later, if_true, if_false] at ih <;> simp_all [put]

theorem put_distinct (key : κ) (value : α) {entries : List (κ × α)}
    (distinct : (entries.map Prod.fst).Nodup) : ((put key value entries).map Prod.fst).Nodup := by
  rw [put_keys]
  split
  · exact distinct
  · rename_i fresh
    exact append_distinct distinct fresh

def insert (d : Dict κ α) (key : κ) (value : α) : Dict κ α :=
  ⟨put key value d.entries, put_distinct key value d.distinct⟩

def ofList (entries : List (κ × α)) : Dict κ α :=
  entries.foldl (fun d entry => d.insert entry.1 entry.2) empty

theorem put_find (key other : κ) (value : α) (entries : List (κ × α)) :
    ((put key value entries).find? (·.1 = other)).map Prod.snd =
      if key = other then some value else (entries.find? (·.1 = other)).map Prod.snd := by
  induction entries with
  | nil => by_cases same : key = other <;> simp [put, same]
  | cons entry rest ih =>
    rw [put]
    by_cases here : entry.1 = key
    · by_cases same : key = other <;> simp [here, same]
    · rw [if_neg here]
      by_cases hit : entry.1 = other
      · have differ : ¬ key = other := fun same => here (hit.trans same.symm)
        simp [hit, differ]
      · simpa [hit] using ih

theorem insert_get? (d : Dict κ α) (key other : κ) (value : α) :
    (d.insert key value).get? other = if key = other then some value else d.get? other :=
  put_find key other value d.entries

theorem contains_get? (d : Dict κ α) (key : κ) : d.contains key = (d.get? key).isSome := by
  rw [get?, contains, keys, Option.isSome_map, Bool.eq_iff_iff, List.find?_isSome]
  simp

theorem mem_keys {d : Dict κ α} {key : κ} : key ∈ d.keys ↔ (d.get? key).isSome := by
  rw [← contains_get?, contains, decide_eq_true_iff]

end Dict
end TapHold
