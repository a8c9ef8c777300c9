namespace Disburse.Distinct

theorem append_nodup {α κ : Type} (key : α → κ) {items : List α} {a : α}
    (hitems : (items.map key).Nodup) (hfree : key a ∉ items.map key) :
    ((items ++ [a]).map key).Nodup := by
  rw [List.map_append, List.nodup_append]
  refine ⟨hitems, by simp, ?_⟩
  intro k hk k' hk' hkk'
  simp only [List.map_cons, List.map_nil, List.mem_singleton] at hk'
  exact hfree (hk' ▸ hkk' ▸ hk)

theorem append_filterMap_nodup {α κ : Type} (key : α → Option κ) {items : List α} {a : α}
    (hitems : (items.filterMap key).Nodup)
    (hfree : ∀ k ∈ items.filterMap key, key a ≠ some k) :
    ((items ++ [a]).filterMap key).Nodup := by
  rw [List.filterMap_append]
  cases h : key a with
  | none => simpa [List.filterMap, h] using hitems
  | some k =>
    have hlast : [a].filterMap key = [k] := by simp [List.filterMap, h]
    rw [hlast, List.nodup_append]
    refine ⟨hitems, by simp, ?_⟩
    intro k₁ hk₁ k₂ hk₂ hkk
    rw [List.mem_singleton] at hk₂
    subst hk₂ hkk
    exact hfree k₁ hk₁ h

theorem find?_filterMap_eq_some_iff {α κ : Type} [DecidableEq κ] (key : α → Option κ)
    {items : List α} {a : α} {k : κ} (hitems : (items.filterMap key).Nodup) :
    items.find? (fun b => key b = some k) = some a ↔ a ∈ items ∧ key a = some k := by
  refine ⟨fun h => ⟨List.mem_of_find?_eq_some h, by simpa using List.find?_some h⟩, ?_⟩
  rintro ⟨ha, hk⟩
  induction items with
  | nil => cases ha
  | cons b items ih =>
    rcases List.mem_cons.mp ha with rfl | ha
    · simp [hk]
    · have hmem : k ∈ items.filterMap key := List.mem_filterMap.mpr ⟨a, ha, hk⟩
      cases hb : key b with
      | none =>
        rw [List.filterMap_cons_none hb] at hitems
        simp [hb, ih hitems ha]
      | some k' =>
        rw [List.filterMap_cons_some hb, List.nodup_cons] at hitems
        have hne : k' ≠ k := fun h => hitems.1 (h ▸ hmem)
        simp [hb, hne, ih hitems.2 ha]

theorem find?_eq_some_iff {α κ : Type} [DecidableEq κ] (key : α → κ) {items : List α} {a : α}
    {k : κ} (hitems : (items.map key).Nodup) :
    items.find? (fun b => key b = k) = some a ↔ a ∈ items ∧ key a = k := by
  have hkeys : items.filterMap (fun b => some (key b)) = items.map key :=
    congrFun List.filterMap_eq_map' items
  simpa using find?_filterMap_eq_some_iff (fun b => some (key b)) (k := k) (hkeys ▸ hitems)

end Disburse.Distinct
