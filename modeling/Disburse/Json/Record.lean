import Disburse.Json.Value

/-!
Records in JSON: an object whose members have known names, or an array that lists the members in
their order. Members with other names are ignored, a known name may stand only once, and an
optional member may be absent or `null`.
-/

namespace Disburse.Json

/-- The known members of a record. An array lists the first `needed` of them at least. -/
def fields? (names : List String) (needed : Nat) : Json → Option (List (String × Json))
  | .obj members =>
    let known := members.filter fun m => names.contains m.1
    if (known.map Prod.fst).Nodup then some known else none
  | .arr items =>
    if needed ≤ items.length ∧ items.length ≤ names.length then some (names.zip items) else none
  | _ => none

def required {α : Type} (fields : List (String × Json)) (name : String)
    (read : Json → Option α) : Option α :=
  (fields.lookup name).bind read

def optional {α : Type} (fields : List (String × Json)) (name : String)
    (read : Json → Option α) : Option (Option α) :=
  match fields.lookup name with
  | none => some none
  | some .null => some none
  | some v => (read v).map some

def text? : Json → Option String
  | .str s => some s
  | _ => none

/-- An integer of 32 bits without a sign. -/
def uint32? : Json → Option UInt32
  | .int n => if 0 ≤ n ∧ n < UInt32.size then some (UInt32.ofNat n.toNat) else none
  | _ => none

def int64? : Json → Option Int64
  | .int n =>
    if Int64.minValue.toInt ≤ n ∧ n ≤ Int64.maxValue.toInt then some (Int64.ofInt n) else none
  | _ => none

def ofUInt32 (n : UInt32) : Json :=
  .int n.toNat

def ofInt64 (n : Int64) : Json :=
  .int n.toInt

/-- A value named by one word: the word as a string, or an object whose only member is that word
with the value `null`. -/
def word? : Json → Option String
  | .str s => some s
  | .obj [(s, .null)] => some s
  | _ => none

end Disburse.Json
