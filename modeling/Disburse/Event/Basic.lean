import Disburse.Payout.Codec

namespace Disburse

/-- What the engine tells others about a payout. -/
inductive Event where
  | processed (id : PayoutId) (recipient : String) (amount : Decimal) (transactionRef : String)
  | failed (id : PayoutId) (recipient : String) (reason : String)
  deriving DecidableEq

namespace Event

def name : Event → String
  | .processed .. => "payout.processed"
  | .failed .. => "payout.failed"

def id : Event → PayoutId
  | .processed id .. => id
  | .failed id .. => id

def toJson : Event → Json
  | .processed id recipient amount transactionRef => .obj [
      ("event", .str "payout.processed"),
      ("payout_id", .str id.toText),
      ("recipient_address", .str recipient),
      ("amount", .str amount.toText),
      ("transaction_ref", .str transactionRef)]
  | .failed id recipient reason => .obj [
      ("event", .str "payout.failed"),
      ("payout_id", .str id.toText),
      ("recipient_address", .str recipient),
      ("reason", .str reason)]

end Event

end Disburse
