namespace Disburse.Text.Utf8

def encode (s : String) : List UInt8 :=
  s.toUTF8.data.toList

/-- The text of some bytes; absent if they are none. -/
def decode? (bytes : List UInt8) : Option String :=
  String.fromUTF8? ⟨bytes.toArray⟩

/-- The character that stands for bytes that are none. -/
def replacement : Char := Char.ofNat 0xFFFD

/-- A byte that may follow the lead byte `lead` in second place. -/
def isSecond (lead byte : UInt8) : Bool :=
  if lead = 0xE0 then 0xA0 ≤ byte && byte ≤ 0xBF
  else if lead = 0xED then 0x80 ≤ byte && byte ≤ 0x9F
  else if lead = 0xF0 then 0x90 ≤ byte && byte ≤ 0xBF
  else if lead = 0xF4 then 0x80 ≤ byte && byte ≤ 0x8F
  else 0x80 ≤ byte && byte ≤ 0xBF

/-- Bytes behind the first one of a character. -/
def isContinuation (byte : UInt8) : Bool :=
  0x80 ≤ byte && byte ≤ 0xBF

inductive Front where
  | nothing
  | char (c : Char) (rest : List UInt8)
  /-- No character: the number of bytes that belong together, unless the text ends in them. -/
  | fault (size : Option Nat) (rest : List UInt8)

/-- The number of a character, from what its lead byte holds and the six bits of each other byte. -/
def assemble (lead : Nat) (others : List UInt8) : Char :=
  Char.ofNat (others.foldl (fun n b => n * 64 + (b.toNat - 0x80)) lead)

/-- The first character, or the bytes that are none. -/
def front : List UInt8 → Front
  | [] => .nothing
  | a :: rest =>
    if a < 0x80 then .char (Char.ofNat a.toNat) rest
    else if a < 0xC2 || a > 0xF4 then .fault (some 1) rest
    else match rest with
      | [] => .fault none []
      | b :: rest₁ =>
        if !isSecond a b then .fault (some 1) rest
        else if a < 0xE0 then .char (assemble (a.toNat - 0xC0) [b]) rest₁
        else match rest₁ with
          | [] => .fault none []
          | c :: rest₂ =>
            if !isContinuation c then .fault (some 2) rest₁
            else if a < 0xF0 then .char (assemble (a.toNat - 0xE0) [b, c]) rest₂
            else match rest₂ with
              | [] => .fault none []
              | d :: rest₃ =>
                if !isContinuation d then .fault (some 3) rest₂
                else .char (assemble (a.toNat - 0xF0) [b, c, d]) rest₃

/-- Characters of a byte string, with a replacement for every fault. Each takes at least one
byte, so the length of the string is enough `fuel`. -/
def replaceFaults : (fuel : Nat) → List UInt8 → List Char
  | 0, _ => []
  | fuel + 1, bytes =>
    match front bytes with
    | .nothing => []
    | .char c rest => c :: replaceFaults fuel rest
    | .fault _ rest => replacement :: replaceFaults fuel rest

/-- The characters of some bytes, faults replaced. -/
def decodeLossy (bytes : List UInt8) : List Char :=
  replaceFaults bytes.length bytes

/-- The place of the first fault, and its size unless the text ends in it. -/
def firstFault? (position : Nat) : (fuel : Nat) → List UInt8 → Option (Nat × Option Nat)
  | 0, _ => none
  | fuel + 1, bytes =>
    match front bytes with
    | .nothing => none
    | .char _ rest => firstFault? (position + (bytes.length - rest.length)) fuel rest
    | .fault size _ => some (position, size)

def faultText (bytes : List UInt8) : String :=
  match firstFault? 0 bytes.length bytes with
  | some (position, some size) => s!"invalid utf-8 sequence of {size} bytes from index {position}"
  | some (position, none) => s!"incomplete utf-8 byte sequence from index {position}"
  | none => ""

end Disburse.Text.Utf8
