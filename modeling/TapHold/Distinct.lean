namespace TapHold

theorem append_distinct {items : List α} {item : α} (distinct : items.Nodup)
    (fresh : item ∉ items) : (items ++ [item]).Nodup := by
  refine List.nodup_append.2 ⟨distinct, by simp, ?_⟩
  intro earlier member last only same
  rw [List.mem_singleton] at only
  exact fresh (only ▸ same ▸ member)

end TapHold
