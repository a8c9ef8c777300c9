import Disburse.Text.Characters
import Mathlib.Data.List.DropRight

namespace Disburse.Text

theorem trimEnd_prefix (cs : List Char) : trimEnd cs <+: cs :=
  List.rdropWhile_prefix isBlank cs

theorem trimEnd_trimEnd (cs : List Char) : trimEnd (trimEnd cs) = trimEnd cs :=
  List.rdropWhile_idempotent isBlank cs

theorem trimStart_trimEnd_trimStart (cs : List Char) :
    trimStart (trimEnd (trimStart cs)) = trimEnd (trimStart cs) := by
  obtain ⟨tail, htail⟩ := trimEnd_prefix (trimStart cs)
  cases hfront : trimEnd (trimStart cs) with
  | nil => rfl
  | cons c front =>
      rw [hfront] at htail
      have hblank : isBlank c = false := by
        have hhead := List.head?_dropWhile_not isBlank cs
        rw [show cs.dropWhile isBlank = trimStart cs from rfl, ← htail] at hhead
        simpa using hhead
      simp [trimStart, hblank]

theorem trim_trim (s : String) : trim (trim s) = trim s := by
  simp only [trim, String.toList_ofList]
  rw [trimStart_trimEnd_trimStart, trimEnd_trimEnd]

end Disburse.Text
