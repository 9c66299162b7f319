import Mathlib.Data.List.Forall2

namespace TapHold

theorem bind_ok {first : Except ε α} {next : α → Except ε β} {result : β} :
    first >>= next = .ok result ↔ ∃ middle, first = .ok middle ∧ next middle = .ok result := by
  cases first <;> simp [bind, Except.bind]

theorem bind_error {first : Except ε α} {next : α → Except ε β} {error : ε} :
    first >>= next = .error error ↔
      first = .error error ∨ ∃ middle, first = .ok middle ∧ next middle = .error error := by
  cases first <;> simp [bind, Except.bind]

theorem bind_pure_error {first : Except ε α} {make : α → β} {error : ε} :
    (do let value ← first; pure (make value)) = .error error ↔ first = .error error := by
  cases first <;> simp [bind, Except.bind, pure, Except.pure]

theorem mapError_ok {result : Except ε α} {wrap : ε → ε'} {value : α} :
    result.mapError wrap = .ok value ↔ result = .ok value := by
  cases result <;> simp [Except.mapError]

theorem mapError_error {result : Except ε α} {wrap : ε → ε'} {error : ε'} :
    result.mapError wrap = .error error ↔
      ∃ reason, result = .error reason ∧ wrap reason = error := by
  cases result <;> simp [Except.mapError]

theorem pure_ok {value other : α} : (pure value : Except ε α) = .ok other ↔ other = value := by
  rw [eq_comm]
  exact Except.ok.injEq other value ▸ Iff.rfl

theorem mapM_reads {read : α → Except ε β} {Reads : α → β → Prop}
    (each : ∀ entry value, read entry = .ok value ↔ Reads entry value) (entries : List α)
    (values : List β) : entries.mapM read = .ok values ↔ List.Forall₂ Reads entries values := by
  induction entries generalizing values with
  | nil =>
    rw [List.mapM_nil, List.forall₂_nil_left_iff]
    exact ⟨fun same => by cases same; rfl, fun same => same ▸ rfl⟩
  | cons entry rest ih =>
    rw [List.mapM_cons, List.forall₂_cons_left_iff]
    simp only [bind_ok, each, ih]
    constructor
    · rintro ⟨value, here, others, behind, same⟩
      cases same
      exact ⟨value, others, here, behind, rfl⟩
    · rintro ⟨value, others, here, behind, rfl⟩
      exact ⟨value, here, others, behind, rfl⟩

theorem forall_left {Reads : α → β → Prop} {Holds : α → Prop} {entries : List α} {values : List β}
    (read : List.Forall₂ Reads entries values)
    (each : ∀ entry value, Reads entry value → Holds entry) : ∀ entry ∈ entries, Holds entry := by
  have both : List.Forall₂ (fun entry value => Holds entry ∧ Reads entry value) entries values :=
    read.imp fun entry value reads => ⟨each entry value reads, reads⟩
  exact ((List.forall₂_and_left entries values).1 both).1

theorem forall_right {Reads : α → β → Prop} {Holds : β → Prop} {entries : List α}
    {values : List β} (read : List.Forall₂ Reads entries values)
    (each : ∀ entry value, Reads entry value → Holds value) : ∀ value ∈ values, Holds value :=
  forall_left read.flip fun value entry reads => each entry value reads

theorem mapM_error {read : α → Except ε β} {items : List α} {error : ε} :
    items.mapM read = .error error ↔ ∃ front item back, items = front ++ item :: back ∧
      (∀ one ∈ front, ∃ value, read one = .ok value) ∧ read item = .error error := by
  induction items with
  | nil =>
    rw [List.mapM_nil]
    refine iff_of_false nofun ?_
    rintro ⟨front, item, back, parts, _⟩
    simp at parts
  | cons first rest ih =>
    rw [List.mapM_cons]
    cases reading : read first with
    | error reason =>
      constructor
      · intro refused
        cases refused
        exact ⟨[], first, rest, rfl, nofun, reading⟩
      · rintro ⟨front, item, back, parts, readable, refused⟩
        cases front with
        | nil =>
          obtain ⟨rfl, _⟩ := List.cons.inj parts
          cases reading.symm.trans refused
          rfl
        | cons other front =>
          obtain ⟨rfl, _⟩ := List.cons.inj parts
          obtain ⟨value, read⟩ := readable first List.mem_cons_self
          cases reading.symm.trans read
    | ok value =>
      refine bind_pure_error.trans (ih.trans ⟨?_, ?_⟩)
      · rintro ⟨front, item, back, rfl, readable, refused⟩
        exact ⟨first :: front, item, back, rfl,
          List.forall_mem_cons.2 ⟨⟨value, reading⟩, readable⟩, refused⟩
      · rintro ⟨front, item, back, parts, readable, refused⟩
        cases front with
        | nil =>
          obtain ⟨rfl, _⟩ := List.cons.inj parts
          cases reading.symm.trans refused
        | cons other front =>
          obtain ⟨rfl, rfl⟩ := List.cons.inj parts
          exact ⟨front, item, back, rfl, (List.forall_mem_cons.1 readable).2, refused⟩

theorem foldlM_mirror {step : β → α → Except ε β} {mirror : γ → α → Except ε γ} {view : β → γ}
    (each : ∀ state item, mirror (view state) item = (step state item).map view) (state : β)
    (items : List α) :
    items.foldlM mirror (view state) = (items.foldlM step state).map view := by
  induction items generalizing state with
  | nil => rfl
  | cons item rest ih =>
    rw [List.foldlM_cons, List.foldlM_cons, each]
    cases step state item with
    | error reason => rfl
    | ok next => exact ih next

theorem foldlM_error {step : β → α → Except ε β} {start : β} {items : List α} {error : ε} :
    items.foldlM step start = .error error ↔ ∃ above item below middle,
      items = above ++ item :: below ∧ above.foldlM step start = .ok middle ∧
        step middle item = .error error := by
  constructor
  · intro refused
    induction items generalizing start with
    | nil => cases refused
    | cons item rest ih =>
      rw [List.foldlM_cons] at refused
      cases stepped : step start item with
      | error reason =>
        rw [stepped] at refused
        cases refused
        exact ⟨[], item, rest, start, rfl, rfl, stepped⟩
      | ok next =>
        rw [stepped] at refused
        obtain ⟨above, other, below, middle, rfl, read, failed⟩ := ih refused
        refine ⟨item :: above, other, below, middle, rfl, ?_, failed⟩
        rw [List.foldlM_cons, stepped]
        exact read
  · rintro ⟨above, item, below, middle, rfl, read, refused⟩
    rw [List.foldlM_append, read]
    exact (List.foldlM_cons ..).trans (congrArg (· >>= _) refused)

end TapHold
