import Mathlib.Data.Finset.Card
import TapHold.Proofs.DictChanges
import TapHold.Proofs.Outcomes
import TapHold.StateVar.Names

namespace TapHold.StateVar

-- The name at this place came before with another variable.
def ClashesAt (named : List (String × StateVar)) (place : Nat) : Prop :=
  ∃ name var, named[place]? = some (name, var) ∧
    ∃ before < place, ∃ other, named[before]? = some (name, other) ∧ other ≠ var

structure FirstClash (named : List (String × StateVar)) (collision : NameCollision)
    (place : Nat) : Prop where
  clashes : ClashesAt named place
  earliest : ∀ before < place, ¬ ClashesAt named before
  second : named[place]? = some (collision.name, collision.second)
  -- of all entries with the name, not only of those that differ
  first : named.find? (·.1 = collision.name) = some (collision.name, collision.first)

def Unambiguous (named : List (String × StateVar)) : Prop :=
  ∀ name var other, (name, var) ∈ named → (name, other) ∈ named → var = other

-- The entries in front of the second variable agree, and the first variable is among them.
def BrokenBy (named : List (String × StateVar)) (collision : NameCollision) : Prop :=
  ∃ front back, named = front ++ (collision.name, collision.second) :: back ∧
    Unambiguous front ∧ (collision.name, collision.first) ∈ front ∧
    collision.first ≠ collision.second

def note (seen : Dict String StateVar) (entry : String × StateVar) :
    Except NameCollision (Dict String StateVar) :=
  match seen.get? entry.1 with
  | none => .ok (seen.insert entry.1 entry.2)
  | some first => if first = entry.2 then .ok seen else .error ⟨entry.1, first, entry.2⟩

theorem scan_notes (seen : Dict String StateVar) (named : List (String × StateVar)) :
    scan seen named = named.foldlM note seen := by
  induction named generalizing seen with
  | nil => rfl
  | cons entry rest ih =>
    rw [scan, List.foldlM_cons, note]
    cases seen.get? entry.1 with
    | none => exact ih _
    | some first =>
      by_cases same : first = entry.2
      · simp only [same, if_true]
        exact ih seen
      · simp only [same, if_false]
        rfl

-- The table has what came in front and nothing else, so nothing in front clashes.
def Tracks (seen : Dict String StateVar) (front : List (String × StateVar)) : Prop :=
  ∀ name var, seen.get? name = some var ↔ (name, var) ∈ front

section
variable {named front back rest : List (String × StateVar)} {entry : String × StateVar}
  {seen next found : Dict String StateVar} {collision : NameCollision}

theorem empty_tracks : Tracks .empty [] := fun _ _ => iff_of_false nofun List.not_mem_nil

theorem Tracks.unambiguous (tracks : Tracks seen front) : Unambiguous front := by
  intro name var other member member'
  have kept := (tracks name var).2 member
  exact Option.some.inj (kept.symm.trans ((tracks name other).2 member'))

theorem Tracks.note (tracks : Tracks seen front) (noted : StateVar.note seen entry = .ok next) :
    Tracks next (front ++ [entry]) := by
  unfold StateVar.note at noted
  intro name var
  rw [List.mem_append, List.mem_singleton, ← tracks]
  cases known : seen.get? entry.1 with
  | none =>
    rw [known] at noted
    cases noted
    rw [Dict.insert_get?]
    by_cases here : entry.1 = name
    · subst here
      simp [known, Prod.ext_iff, eq_comm]
    · simp [here, Prod.ext_iff, Ne.symm here]
  | some first =>
    simp only [known] at noted
    split at noted
    · rename_i same
      cases noted
      refine (or_iff_left_of_imp ?_).symm
      rintro rfl
      rw [known, same]
    · cases noted

theorem Tracks.notes (tracks : Tracks seen front)
    (noted : rest.foldlM StateVar.note seen = .ok found) : Tracks found (front ++ rest) := by
  induction rest generalizing seen front with
  | nil =>
    cases noted
    rwa [List.append_nil]
  | cons entry rest ih =>
    rw [List.foldlM_cons] at noted
    obtain ⟨next, here, further⟩ := bind_ok.1 noted
    rw [List.append_cons]
    exact ih (tracks.note here) further

theorem Tracks.refused (tracks : Tracks seen front) :
    StateVar.note seen entry = .error collision ↔ (collision.name, collision.second) = entry ∧
      (collision.name, collision.first) ∈ front ∧ collision.first ≠ collision.second := by
  unfold StateVar.note
  constructor
  · intro refused
    cases known : seen.get? entry.1 with
    | none => simp [known] at refused
    | some first =>
      simp only [known] at refused
      split at refused
      · cases refused
      · rename_i other
        cases refused
        exact ⟨rfl, (tracks _ _).1 known, other⟩
  · rintro ⟨rfl, member, other⟩
    rw [(tracks _ _).2 member]
    exact if_neg other

theorem noted_iff : (∃ found, named.foldlM note .empty = .ok found) ↔ Unambiguous named := by
  constructor
  · rintro ⟨found, noted⟩
    exact (empty_tracks.notes noted).unambiguous
  · intro unambiguous
    cases noted : named.foldlM note .empty with
    | ok found => exact ⟨found, rfl⟩
    | error collision =>
      obtain ⟨front, entry, back, seen, rfl, before, refused⟩ := foldlM_error.1 noted
      obtain ⟨rfl, member, other⟩ := (empty_tracks.notes before).refused.1 refused
      refine absurd ?_ other
      exact unambiguous collision.name _ _ (List.mem_append_left _ member) (by simp)

theorem refused_iff : named.foldlM note .empty = .error collision ↔ BrokenBy named collision := by
  rw [foldlM_error]
  constructor
  · rintro ⟨front, entry, back, seen, rfl, before, refused⟩
    have tracks : Tracks seen front := empty_tracks.notes before
    obtain ⟨rfl, member, other⟩ := tracks.refused.1 refused
    exact ⟨front, back, rfl, tracks.unambiguous, member, other⟩
  · rintro ⟨front, back, rfl, unambiguous, member, other⟩
    obtain ⟨seen, before⟩ := noted_iff.2 unambiguous
    have tracks : Tracks seen front := empty_tracks.notes before
    exact ⟨front, _, back, seen, rfl, before, tracks.refused.2 ⟨rfl, member, other⟩⟩

theorem Tracks.size (tracks : Tracks seen front) :
    seen.size = (front.map Prod.fst).toFinset.card := by
  have names : seen.keys.toFinset = (front.map Prod.fst).toFinset := by
    ext name
    rw [List.mem_toFinset, List.mem_toFinset, Dict.mem_keys, Option.isSome_iff_exists]
    simp [tracks name]
  rw [← names, List.toFinset_card_of_nodup (show seen.keys.Nodup from seen.distinct)]
  exact (List.length_map _).symm

theorem clashesAt_front {place : Nat} (inside : place < front.length) :
    ClashesAt (front ++ back) place ↔ ClashesAt front place := by
  unfold ClashesAt
  rw [List.getElem?_append_left inside]
  refine exists_congr fun name => exists_congr fun var => and_congr_right fun _ => ?_
  refine exists_congr fun before => and_congr_right fun earlier => ?_
  rw [List.getElem?_append_left (earlier.trans inside)]

theorem unambiguous_iff : Unambiguous front ↔ ∀ place, ¬ ClashesAt front place := by
  constructor
  · rintro unambiguous place ⟨name, var, here, before, _, other, earlier, differ⟩
    exact differ (unambiguous name other var (List.mem_of_getElem? earlier)
      (List.mem_of_getElem? here))
  · intro clear name var other member member'
    obtain ⟨place, here⟩ := List.mem_iff_getElem?.1 member
    obtain ⟨place', here'⟩ := List.mem_iff_getElem?.1 member'
    by_contra differ
    rcases Nat.lt_trichotomy place place' with before | rfl | behind
    · exact clear place' ⟨name, other, here', place, before, var, here, differ⟩
    · cases here.symm.trans here'
      exact differ rfl
    · exact clear place ⟨name, var, here, place', behind, other, here', Ne.symm differ⟩

theorem unambiguous_front : Unambiguous front ↔
    ∀ place < front.length, ¬ ClashesAt (front ++ back) place := by
  rw [unambiguous_iff]
  constructor
  · intro clear place inside
    rw [clashesAt_front inside]
    exact clear place
  · intro clear place clashes
    obtain ⟨name, var, here, _⟩ := id clashes
    have inside : place < front.length := (List.getElem?_eq_some_iff.1 here).1
    exact clear place inside ((clashesAt_front inside).2 clashes)

theorem Unambiguous.find (unambiguous : Unambiguous front) {name : String} {var : StateVar}
    (member : (name, var) ∈ front) : front.find? (·.1 = name) = some (name, var) := by
  refine find_only member (decide_eq_true rfl) fun one inside same => ?_
  obtain rfl : one.1 = name := of_decide_eq_true same
  exact Prod.ext rfl (unambiguous one.1 one.2 var inside member)

theorem FirstClash.broken {place : Nat} (clash : FirstClash named collision place) :
    BrokenBy named collision := by
  obtain ⟨inside, here⟩ := List.getElem?_eq_some_iff.1 clash.second
  have parts : named = named.take place ++
      (collision.name, collision.second) :: named.drop (place + 1) := by
    rw [← here, List.getElem_cons_drop, List.take_append_drop]
  have front : (named.take place).length = place := List.length_take_of_le inside.le
  have earliest := clash.earliest
  rw [parts] at earliest
  have unambiguous : Unambiguous (named.take place) :=
    unambiguous_front.2 fun before inside => earliest before (front ▸ inside)
  obtain ⟨name, var, last, before, earlier, other, seen, differ⟩ := clash.clashes
  cases last.symm.trans clash.second
  have member : (collision.name, other) ∈ named.take place := by
    refine List.mem_of_getElem? (i := before) ?_
    rw [List.getElem?_take_of_lt earlier]
    exact seen
  -- in front there is but one variable under the name, so it is the one that was kept
  have found := clash.first
  rw [parts, List.find?_append, unambiguous.find member] at found
  cases found
  exact ⟨_, _, parts, unambiguous, member, differ⟩

theorem BrokenBy.firstClash (broken : BrokenBy named collision) :
    ∃ place, FirstClash named collision place := by
  obtain ⟨front, back, rfl, unambiguous, member, differ⟩ := broken
  obtain ⟨before, seen⟩ := List.mem_iff_getElem?.1 member
  have earlier : before < front.length := (List.getElem?_eq_some_iff.1 seen).1
  have here : (front ++ (collision.name, collision.second) :: back)[front.length]? =
      some (collision.name, collision.second) := by simp
  refine ⟨front.length, ?_, unambiguous_front.1 unambiguous, here, ?_⟩
  · refine ⟨_, _, here, before, earlier, _, ?_, differ⟩
    rw [List.getElem?_append_left earlier]
    exact seen
  · rw [List.find?_append, unambiguous.find member]
    rfl

theorem countNames_ok {count : Nat} : countNames named = .ok count ↔
    Unambiguous named ∧ count = (named.map Prod.fst).toFinset.card := by
  rw [← noted_iff, countNames, bind_ok, scan_notes]
  constructor
  · rintro ⟨found, noted, same⟩
    have tracks : Tracks found named := empty_tracks.notes noted
    exact ⟨⟨found, noted⟩, (pure_ok.1 same).trans tracks.size⟩
  · rintro ⟨⟨found, noted⟩, rfl⟩
    have tracks : Tracks found named := empty_tracks.notes noted
    exact ⟨found, noted, pure_ok.2 tracks.size.symm⟩

theorem countNames_error : countNames named = .error collision ↔
    ∃ place, FirstClash named collision place := by
  rw [countNames, bind_pure_error, scan_notes, refused_iff]
  exact ⟨BrokenBy.firstClash, fun ⟨_, clash⟩ => clash.broken⟩

end

theorem names_checked_exactly (named : List (String × StateVar)) :
    (∀ count, countNames named = .ok count ↔
      Unambiguous named ∧ count = (named.map Prod.fst).toFinset.card) ∧
    ∀ collision, countNames named = .error collision ↔
      ∃ place, FirstClash named collision place :=
  ⟨fun _ => countNames_ok, fun _ => countNames_error⟩

example : countNames [("xState", .held ⟨"x"⟩), ("yState", .held ⟨"y"⟩), ("xState", .active "x"),
    ("yState", .active "y")] = .error ⟨"xState", .held ⟨"x"⟩, .active "x"⟩ := by decide

end TapHold.StateVar
