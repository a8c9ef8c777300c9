import Disburse.Json.Reader
import Disburse.Json.Writer
import Disburse.Payout.Codec
import Disburse.Text.Base64
import Disburse.Text.Utf8

namespace Disburse.Ledger

open Disburse.Json
open Disburse.Text

/-- What is paid, and to whom. -/
structure Payment where
  destination : String
  amount : Decimal
  asset : String
  deriving DecidableEq

/-- A transaction, before it is signed. -/
structure Transfer where
  source : String
  sequence : Int64
  fee : UInt32
  /-- Seconds since 1970 after which the network must refuse the transaction. -/
  maxTime : Int64
  passphrase : String
  memo : String
  payment : Payment
  deriving DecidableEq

namespace Payment

def memberNames : List String :=
  ["destination", "amount", "asset"]

def ofJson? (v : Json) : Option Payment := do
  let fields ← fields? memberNames memberNames.length v
  return {
    destination := ← required fields "destination" text?
    amount := ← required fields "amount" Decimal.ofJson?
    asset := ← required fields "asset" text? }

def toJson (p : Payment) : Json :=
  .obj [("destination", .str p.destination), ("amount", .str p.amount.toText),
    ("asset", .str p.asset)]

end Payment

namespace Transfer

def memberNames : List String :=
  ["source_account", "sequence", "fee", "max_time", "network_passphrase", "memo", "operation"]

def ofJson? (v : Json) : Option Transfer := do
  let fields ← fields? memberNames memberNames.length v
  return {
    source := ← required fields "source_account" text?
    sequence := ← required fields "sequence" int64?
    fee := ← required fields "fee" uint32?
    maxTime := ← required fields "max_time" int64?
    passphrase := ← required fields "network_passphrase" text?
    memo := ← required fields "memo" text?
    payment := ← required fields "operation" Payment.ofJson? }

def toJson (t : Transfer) : Json :=
  .obj [
    ("source_account", .str t.source),
    ("sequence", ofInt64 t.sequence),
    ("fee", ofUInt32 t.fee),
    ("max_time", ofInt64 t.maxTime),
    ("network_passphrase", .str t.passphrase),
    ("memo", .str t.memo),
    ("operation", t.payment.toJson)]

/-- The bytes that a signature covers. -/
def payload (t : Transfer) : List UInt8 :=
  Utf8.encode t.toJson.render

def encode (t : Transfer) : String :=
  Base64.encode t.payload

/-- The transaction that a text stands for. -/
def decode? (s : String) : Option Transfer := do
  let text ← Utf8.decode? (← Base64.decode? s)
  ofJson? (← Json.parse? text)

end Transfer

end Disburse.Ledger
