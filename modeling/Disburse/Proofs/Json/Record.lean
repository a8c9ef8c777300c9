import Disburse.Json.Record
import Disburse.Proofs.Json.Text
import Mathlib.Data.List.Nodup

namespace Disburse.Json

theorem int64?_ofInt64 (n : Int64) : int64? (ofInt64 n) = some n := by
  rw [ofInt64, int64?, if_pos ⟨n.minValue_le_toInt, n.toInt_le⟩, Int64.ofInt_toInt]

theorem uint32?_ofUInt32 (n : UInt32) : uint32? (ofUInt32 n) = some n := by
  have hrange : (0 : Int) ≤ n.toNat ∧ (n.toNat : Int) < UInt32.size :=
    ⟨Int.natCast_nonneg _, Int.ofNat_lt.mpr n.toNat_lt⟩
  rw [ofUInt32, uint32?, if_pos hrange]
  simp

theorem isPlain_int {n : Int} (h : n.natAbs ≤ UInt64.size) : (Json.int n).IsPlain := by
  have hlimit : UInt64.size < doubleLimit := by decide +kernel
  exact Nat.lt_of_le_of_lt h hlimit

theorem isPlain_ofInt64 (n : Int64) : (ofInt64 n).IsPlain := by
  have hlow := n.le_toInt
  have hhigh := n.toInt_lt
  have hsize : UInt64.size = 18446744073709551616 := rfl
  exact isPlain_int (by omega)

theorem isPlain_ofUInt32 (n : UInt32) : (ofUInt32 n).IsPlain := by
  have hhigh := n.toNat_lt
  have hsize : UInt64.size = 18446744073709551616 := rfl
  exact isPlain_int (by omega)

theorem isPlain_ofOption {α : Type} {write : α → Json} (h : ∀ a, (write a).IsPlain)
    (a? : Option α) : (ofOption write a?).IsPlain := by
  cases a? with
  | none => trivial
  | some a => exact h a

/-- The value under a name; an absent one is `null`. -/
def valueOf (fields : List (String × Json)) (name : String) : Json :=
  (fields.lookup name).getD .null

/-- Read a value that may be `null`. -/
def orAbsent {α : Type} (read : Json → Option α) : Json → Option (Option α)
  | .null => some none
  | v => (read v).map some

variable {α : Type} {fields members members' : List (String × Json)} {name : String}
  {read : Json → Option α}

theorem required_of_lookup {v : Json} (h : fields.lookup name = some v) :
    required fields name read = read v := by
  rw [required, h, Option.bind_some]

theorem required_eq (hnull : read .null = none) :
    required fields name read = read (valueOf fields name) := by
  rw [required, valueOf]
  cases fields.lookup name with
  | none => exact hnull.symm
  | some v => rfl

theorem optional_eq : optional fields name read = orAbsent read (valueOf fields name) := by
  rw [optional, valueOf]
  cases fields.lookup name with
  | none => rfl
  | some v => cases v <;> rfl

theorem orAbsent_ofOption {write : α → Json} (hread : ∀ a, read (write a) = some a)
    (hnull : read .null = none) (a? : Option α) :
    orAbsent read (ofOption write a?) = some a? := by
  cases a? with
  | none => rfl
  | some a =>
      have hne : write a ≠ .null := by
        intro h
        rw [← h, hread] at hnull
        cases hnull
      have hvalue : orAbsent read (write a) = (read (write a)).map some := by
        unfold orAbsent
        split
        · exact absurd ‹_› hne
        · rfl
      rw [ofOption, hvalue, hread]
      rfl

theorem fields?_obj {names : List String} {needed : Nat}
    (hnames : members.map Prod.fst = names) (hnodup : names.Nodup) :
    fields? names needed (.obj members) = some members := by
  have hall : (members.filter fun m => names.contains m.1) = members := by
    refine List.filter_eq_self.mpr fun m hm => ?_
    rw [List.contains_iff_mem, ← hnames]
    exact List.mem_map_of_mem hm
  simp only [fields?, hall, hnames, hnodup, if_true]

theorem fields?_obj_eq_some_iff {names : List String} {needed : Nat} :
    fields? names needed (.obj members) = some fields ↔
      (fields.map Prod.fst).Nodup ∧ members.filter (fun m => names.contains m.1) = fields := by
  rw [fields?]
  constructor
  · intro h
    split at h
    · rename_i hnodup
      cases h
      exact ⟨hnodup, rfl⟩
    · cases h
  · rintro ⟨hnodup, rfl⟩
    exact if_pos hnodup

theorem lookup_eq_some_iff (hnodup : (fields.map Prod.fst).Nodup) {v : Json} :
    fields.lookup name = some v ↔ (name, v) ∈ fields := by
  induction fields with
  | nil => simp
  | cons m fields ih =>
      obtain ⟨key, value⟩ := m
      obtain ⟨hfree, hrest⟩ := List.nodup_cons.mp hnodup
      by_cases hkey : name = key
      · subst hkey
        have hnot : (name, v) ∉ fields := fun hmem => hfree (List.mem_map.mpr ⟨_, hmem, rfl⟩)
        simp [hnot, eq_comm]
      · rw [List.lookup_cons, beq_eq_false_iff_ne.mpr hkey]
        simp [hkey, ih hrest]

theorem required_of_mem (hnodup : (fields.map Prod.fst).Nodup) {v : Json}
    (h : (name, v) ∈ fields) : required fields name read = read v :=
  required_of_lookup ((lookup_eq_some_iff hnodup).mpr h)

theorem optional_of_mem (hnodup : (fields.map Prod.fst).Nodup) {v : Json}
    (h : (name, v) ∈ fields) : optional fields name read = orAbsent read v := by
  rw [optional_eq, valueOf, (lookup_eq_some_iff hnodup).mpr h, Option.getD_some]

/-- Objects that differ in the order of their members, in members without meaning to the record of
these names, and in members that are `null`. -/
inductive Rearranges (names : List String) :
    List (String × Json) → List (String × Json) → Prop where
  | permute {ms ms' : List (String × Json)} : ms.Perm ms' → Rearranges names ms ms'
  | add {ms : List (String × Json)} (name : String) (v : Json) : name ∉ names →
      Rearranges names ms ((name, v) :: ms)
  | drop {ms : List (String × Json)} (name : String) : Rearranges names ((name, .null) :: ms) ms
  | trans {ms₁ ms₂ ms₃ : List (String × Json)} : Rearranges names ms₁ ms₂ →
      Rearranges names ms₂ ms₃ → Rearranges names ms₁ ms₃

theorem valueOf_perm {fields' : List (String × Json)} (hperm : fields.Perm fields')
    (hnodup : (fields.map Prod.fst).Nodup) : valueOf fields' = valueOf fields := by
  have hnodup' := ((hperm.map Prod.fst).nodup_iff).mp hnodup
  funext name
  have hlookup : fields'.lookup name = fields.lookup name := by
    apply Option.ext
    intro v
    rw [lookup_eq_some_iff hnodup, lookup_eq_some_iff hnodup', hperm.mem_iff]
  rw [valueOf, valueOf, hlookup]

theorem valueOf_cons_null (hfree : name ∉ fields.map Prod.fst) :
    valueOf ((name, .null) :: fields) = valueOf fields := by
  funext key
  rw [valueOf, valueOf, List.lookup_cons]
  by_cases hkey : key = name
  · subst hkey
    have hnone : fields.lookup key = none := by
      rw [List.lookup_eq_none_iff]
      intro m hm
      rw [bne_iff_ne]
      rintro rfl
      exact hfree (List.mem_map_of_mem hm)
    simp [hnone]
  · rw [beq_eq_false_iff_ne.mpr hkey]

theorem Rearranges.fields? {names : List String} {needed : Nat}
    (h : Rearranges names members members')
    (hfields : Json.fields? names needed (.obj members) = some fields) :
    ∃ fields', Json.fields? names needed (.obj members') = some fields' ∧
      valueOf fields' = valueOf fields := by
  induction h generalizing fields with
  | permute hperm =>
      obtain ⟨hnodup, rfl⟩ := fields?_obj_eq_some_iff.mp hfields
      have hknown := hperm.filter fun m => names.contains m.1
      refine ⟨_, fields?_obj_eq_some_iff.mpr ⟨?_, rfl⟩, valueOf_perm hknown hnodup⟩
      exact (hknown.map Prod.fst).nodup_iff.mp hnodup
  | add name v hname =>
      refine ⟨fields, ?_, rfl⟩
      obtain ⟨hnodup, rfl⟩ := fields?_obj_eq_some_iff.mp hfields
      exact fields?_obj_eq_some_iff.mpr ⟨hnodup, by simp [hname]⟩
  | drop name =>
      obtain ⟨hnodup, rfl⟩ := fields?_obj_eq_some_iff.mp hfields
      rw [List.filter_cons] at hnodup ⊢
      split at hnodup
      · rename_i hname
        obtain ⟨hfree, hrest⟩ := List.nodup_cons.mp hnodup
        rw [if_pos hname, valueOf_cons_null hfree]
        exact ⟨_, fields?_obj_eq_some_iff.mpr ⟨hrest, rfl⟩, rfl⟩
      · rename_i hname
        rw [if_neg hname]
        exact ⟨_, fields?_obj_eq_some_iff.mpr ⟨hnodup, rfl⟩, rfl⟩
  | trans _ _ ih₁ ih₂ =>
      obtain ⟨fields₁, hfields₁, hvalue₁⟩ := ih₁ hfields
      obtain ⟨fields₂, hfields₂, hvalue₂⟩ := ih₂ hfields₁
      exact ⟨fields₂, hfields₂, hvalue₂.trans hvalue₁⟩

end Disburse.Json
