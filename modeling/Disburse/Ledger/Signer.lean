import Disburse.Crypto.Ed25519
import Disburse.Ledger.Transfer
import Disburse.Text.Characters
import Disburse.Text.Hex

/-!
The key of the paying account, and what it signs. A signed transfer travels as an envelope: base64
of the JSON object of the key, the signature and the canonical form.
-/

namespace Disburse.Ledger

open Disburse.Text

/-- The key of the paying account. -/
structure Signer where
  seed : List UInt8
  seed_length : seed.length = 32

namespace Signer

/-- The wording of what is wrong with a seed. -/
def faultText : Hex.Fault → String
  | .oddLength => "Odd number of digits"
  | .badDigit byte position =>
    s!"Invalid character {Quoted.char (Char.ofNat byte.toNat)} at position {position}"

/-- The signer of a seed in hexadecimal digits; white space around them is ignored. -/
def ofHexSeed (s : String) : Except Error Signer :=
  match Hex.decode (trim s) with
  | .error fault => .error (.signing s!"signer seed is not hex: {faultText fault}")
  | .ok seed =>
    if h : seed.length = 32 then .ok ⟨seed, h⟩
    else .error (.signing "signer seed must be 32 bytes")

def publicKey (signer : Signer) : String :=
  Hex.encode (Ed25519.publicKey signer.seed)

/-- A signer in messages: its public key, and nothing of its seed. -/
def description (signer : Signer) : String :=
  let opening := "TransferSigner \x7b public_key: "
  let closing := " \x7d"
  opening ++ Quoted.text signer.publicKey ++ closing

end Signer

/-- A transfer with its signature, ready for submission. -/
structure Envelope where
  text : String
  deriving DecidableEq

namespace Envelope

/-- The transaction inside a signed envelope. -/
def transfer? (e : Envelope) : Option Transfer := do
  let text ← Utf8.decode? (← Base64.decode? e.text)
  let .str form ← (← Json.parse? text).member? "tx" | none
  Transfer.decode? form

end Envelope

/-- The envelope of a transaction: its text beside its signature and the public key. -/
def Transfer.sign (t : Transfer) (signer : Signer) : Envelope :=
  let signature := Ed25519.sign signer.seed t.payload
  let content := Json.obj [
    ("public_key", .str signer.publicKey),
    ("signature", .str (Hex.encode signature)),
    ("tx", .str t.encode)]
  ⟨Base64.encode (Utf8.encode content.render)⟩

end Disburse.Ledger
