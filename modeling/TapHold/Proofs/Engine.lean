import TapHold.Keymap
import TapHold.Proofs.FirstFit

namespace TapHold

namespace Action

def write? : Action → Option (StateVar × Expr)
  | setVar var value => some (var, value)
  | _ => none

def timer? : Action → Option (StateVar × Expr)
  | setWhenHeld var value _ => some (var, value)
  | _ => none

def reset? : Action → Option (StateVar × Expr)
  | setOnRelease var value => some (var, value)
  | _ => none

def emitted? : Action → Option Stroke
  | emit stroke => some stroke
  | _ => none

def tapped? : Action → Option Stroke
  | emitIfAlone stroke => some stroke
  | _ => none

end Action

namespace Rule

def writes (rule : Rule) : List (StateVar × Expr) := rule.actions.filterMap Action.write?
def timers (rule : Rule) : List (StateVar × Expr) := rule.actions.filterMap Action.timer?
def resets (rule : Rule) : List (StateVar × Expr) := rule.actions.filterMap Action.reset?

def emits (rule : Rule) : List Stroke := rule.actions.filterMap Action.emitted?
def taps (rule : Rule) : List Stroke := rule.actions.filterMap Action.tapped?

end Rule

-- What the engine reads off its clock at an event. Nothing relates the readings of two events.
structure Clock where
  typing : Bool
  after : Nat → Int

def Clock.busy : Clock := ⟨true, Int.ofNat⟩

def Expr.value (clock : Clock) : Expr → Int
  | int n => n
  | streakActive => if clock.typing then 1 else 0
  | nowPlus ms => clock.after ms

namespace Valuation

def start : Valuation := fun _ => 0

def set (now : Valuation) (var : StateVar) (value : Int) : Valuation :=
  fun other => if other = var then value else now other

def write (clock : Clock) (now : Valuation) (writes : List (StateVar × Expr)) : Valuation :=
  writes.foldl (fun now w => now.set w.1 (w.2.value clock)) now

theorem write_cases (clock : Clock) (now : Valuation) (writes : List (StateVar × Expr))
    (var : StateVar) :
    (write clock now writes var = now var ∧ ∀ value, (var, value) ∉ writes) ∨
      ∃ value, (var, value) ∈ writes ∧ write clock now writes var = value.value clock := by
  induction writes generalizing now with
  | nil => exact .inl ⟨rfl, by simp⟩
  | cons first rest ih =>
    obtain ⟨target, value⟩ := first
    rcases ih (now.set target (value.value clock)) with ⟨kept, unwritten⟩ | ⟨other, later, written⟩
    · by_cases here : var = target
      · refine .inr ⟨value, by simp [here], ?_⟩
        exact kept.trans (if_pos here)
      · refine .inl ⟨kept.trans (if_neg here), ?_⟩
        intro other member
        rcases List.mem_cons.1 member with same | later
        · cases same
          exact here rfl
        · exact unwritten other later
    · exact .inr ⟨other, List.mem_cons_of_mem _ later, written⟩

end Valuation

def Keymap.answer (keymap : Keymap) (key : Key) (modifier : Option Modifier) (now : Valuation) :
    Option Rule :=
  (keymap.rulesFor? key).bind fun set => firstFit modifier now set.rules

namespace Engine

structure Hold where
  key : Key
  rule : Option Rule
  -- no other key was pressed since, and no timer of this key fired
  alone : Bool

namespace Hold

def writes (hold : Hold) : List (StateVar × Expr) := hold.rule.elim [] Rule.writes
def timers (hold : Hold) : List (StateVar × Expr) := hold.rule.elim [] Rule.timers
def resets (hold : Hold) : List (StateVar × Expr) := hold.rule.elim [] Rule.resets

def emits (hold : Hold) : List (Rule × Stroke) :=
  hold.rule.elim [] fun rule => rule.emits.map fun stroke => (rule, stroke)

def taps (hold : Hold) : List (Rule × Stroke) :=
  if hold.alone then hold.rule.elim [] fun rule => rule.taps.map fun stroke => (rule, stroke)
  else []

def disturb (hold : Hold) : Hold := { hold with alone := false }

end Hold

structure State where
  vars : Valuation
  down : List Hold
  -- what rules have sent, each stroke with its rule; keys without a rule are not in it
  sent : List (Rule × Stroke)

namespace State

def start : State := ⟨.start, [], []⟩

def find? (state : State) (key : Key) : Option Hold := state.down.find? (·.key = key)

def press (keymap : Keymap) (state : State) (key : Key) (modifier : Option Modifier)
    (clock : Clock) : State :=
  let hold : Hold := ⟨key, keymap.answer key modifier state.vars, true⟩
  { vars := state.vars.write clock hold.writes
    down := state.down.map Hold.disturb ++ [hold]
    sent := state.sent ++ hold.emits }

def fire (state : State) (key : Key) (timer : StateVar × Expr) (clock : Clock) : State :=
  { state with
    vars := state.vars.write clock [timer]
    down := state.down.map fun hold => if hold.key = key then hold.disturb else hold }

def release (state : State) (hold : Hold) (clock : Clock) : State :=
  { vars := state.vars.write clock hold.resets
    down := state.down.filter (·.key ≠ hold.key)
    sent := state.sent ++ hold.taps }

section
variable {state : State} {key other : Key} {hold : Hold} {clock : Clock}

theorem find_pressed {keymap : Keymap} {modifier : Option Modifier}
    (up : state.find? key = none) :
    (state.press keymap key modifier clock).find? key =
      some ⟨key, keymap.answer key modifier state.vars, true⟩ := by
  have others : (state.down.map Hold.disturb).find? (·.key = key) = none := by
    rw [List.find?_map]
    exact congrArg (Option.map Hold.disturb) up
  rw [find?, press, List.find?_append, others, Option.none_or]
  exact List.find?_cons_of_pos (decide_eq_true rfl)

theorem find_press {keymap : Keymap} {modifier : Option Modifier}
    (found : state.find? key = some hold) :
    (state.press keymap other modifier clock).find? key = some hold.disturb := by
  have first : (state.down.map Hold.disturb).find? (·.key = key) = some hold.disturb := by
    rw [List.find?_map]
    exact congrArg (Option.map Hold.disturb) found
  rw [find?, press, List.find?_append, first, Option.some_or]

theorem find_fire {timer : StateVar × Expr} (found : state.find? key = some hold) :
    (state.fire other timer clock).find? key =
      some (if hold.key = other then hold.disturb else hold) := by
  have test : ((fun hold : Hold => decide (hold.key = key)) ∘ fun hold =>
      if hold.key = other then hold.disturb else hold) = fun hold => decide (hold.key = key) := by
    funext hold
    rw [Function.comp]
    split <;> rfl
  rw [find?, fire, List.find?_map, test]
  exact congrArg (Option.map _) found

theorem find_release {released : Hold} (apart : released.key ≠ key)
    (found : state.find? key = some hold) :
    (state.release released clock).find? key = some hold := by
  have test : (fun hold : Hold => decide (decide (hold.key ≠ released.key) = true ∧
      decide (hold.key = key) = true)) = fun hold => decide (hold.key = key) := by
    funext hold
    by_cases here : hold.key = key
    · simp [here, apart.symm]
    · simp [here]
  rw [find?, release, List.find?_filter, test]
  exact found

end

end State

inductive Event where
  | press (key : Key) (modifier : Option Modifier) (clock : Clock)
  | fire (key : Key) (place : Nat) (clock : Clock)
  | release (key : Key) (clock : Clock)

-- There is no clock. A timer may fire at any moment while its key is down, and more than once; an
-- engine whose timers wait for their thresholds has fewer runs, so what holds of all runs here
-- holds of all of its own.
def step (keymap : Keymap) (state : State) : Event → Option State
  | .press key modifier clock =>
    match state.find? key with
    | some _ => none
    | none => some (state.press keymap key modifier clock)
  | .fire key place clock => do
    let hold ← state.find? key
    let timer ← hold.timers[place]?
    return state.fire key timer clock
  | .release key clock => do
    let hold ← state.find? key
    return state.release hold clock

inductive Step (keymap : Keymap) (before : State) : Event → State → Prop where
  | press (up : before.find? key = none) :
      Step keymap before (.press key modifier clock) (before.press keymap key modifier clock)
  | fire (down : before.find? key = some hold) (armed : hold.timers[place]? = some timer) :
      Step keymap before (.fire key place clock) (before.fire key timer clock)
  | release (down : before.find? key = some hold) :
      Step keymap before (.release key clock) (before.release hold clock)

theorem step_exact {keymap : Keymap} {before after : State} {event : Event} :
    step keymap before event = some after ↔ Step keymap before event after := by
  constructor
  · intro stepped
    cases event with
    | press key modifier clock =>
      cases found : before.find? key with
      | some hold => simp [step, found] at stepped
      | none =>
        simp only [step, found, Option.some.injEq] at stepped
        exact stepped ▸ .press found
    | fire key place clock =>
      cases found : before.find? key with
      | none => simp [step, found] at stepped
      | some hold =>
        cases armed : hold.timers[place]? with
        | none => simp [step, found, armed] at stepped
        | some timer =>
          simp only [step, found, armed, Option.bind_eq_bind, Option.bind_some, Option.pure_def,
            Option.some.injEq] at stepped
          exact stepped ▸ .fire found armed
    | release key clock =>
      cases found : before.find? key with
      | none => simp [step, found] at stepped
      | some hold =>
        simp only [step, found, Option.bind_eq_bind, Option.bind_some, Option.pure_def,
          Option.some.injEq] at stepped
        exact stepped ▸ .release found
  · intro taken
    cases taken with
    | press up => simp [step, up]
    | fire down armed => simp [step, down, armed]
    | release down => simp [step, down]

def run (keymap : Keymap) : State → List Event → Option State
  | state, [] => some state
  | state, event :: rest => (step keymap state event).bind (run keymap · rest)

theorem run_preserves_while {keymap : Keymap} {kept : State → Prop} {allowed : Event → Prop}
    (preserved : ∀ {before event after}, kept before → allowed event →
      Step keymap before event after → kept after)
    {before after : State} {events : List Event} (within : ∀ event ∈ events, allowed event)
    (holds : kept before) (ran : run keymap before events = some after) : kept after := by
  induction events generalizing before with
  | nil =>
    cases ran
    exact holds
  | cons event rest ih =>
    obtain ⟨middle, stepped, later⟩ := Option.bind_eq_some_iff.1 ran
    have next := preserved holds (within event List.mem_cons_self) (step_exact.1 stepped)
    exact ih (fun other member => within other (List.mem_cons_of_mem _ member)) next later

theorem run_preserves {keymap : Keymap} {kept : State → Prop}
    (preserved : ∀ {before event after}, kept before → Step keymap before event after → kept after)
    {before after : State} {events : List Event} (holds : kept before)
    (ran : run keymap before events = some after) : kept after :=
  run_preserves_while (fun holds _ taken => preserved holds taken) (fun _ _ => trivial) holds ran

end Engine
end TapHold
