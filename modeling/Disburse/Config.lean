import Disburse.Engine.Sweep
import Disburse.Text.Numeral
import Disburse.Time.Wait

/-!
Settings, read from named texts. Most have a default; all are checked together, because a payout
must not count as stuck while its execution can still run.
-/

namespace Disburse

open Disburse.Text

/-- The settings of a process, read from its environment. -/
structure Config where
  rpcUrl : String
  horizonUrl : String
  networkPassphrase : String
  /-- Seed of the paying account, in hexadecimal digits. -/
  signerSecret : String
  sourceAccount : String
  databaseUrl : String
  apiPort : UInt16
  baseFee : UInt32
  txTimeoutSecs : UInt64
  confirmPollIntervalMs : UInt64
  confirmMaxAttempts : UInt32
  simulateBeforeSubmit : Bool
  httpTimeoutSecs : UInt64
  retryBaseSecs : Int64
  defaultMaxRetries : UInt32
  schedulerIntervalSecs : UInt64
  schedulerBatchSize : UInt32
  stuckAfterSecs : Int64

/-- Where settings are looked up. -/
abbrev Environment : Type :=
  String → Option String

namespace Environment

def need (env : Environment) (name : String) : Except Error String :=
  match env name with
  | some text => .ok text
  | none => .error (.config s!"{name} environment variable is required")

/-- A setting of a certain form, with a default of that form. -/
def parsed {α : Type} (env : Environment) (read : String → Option α) (name : String)
    (default : α) : Except Error α :=
  match env name with
  | none => .ok default
  | some text =>
    match read text with
    | some a => .ok a
    | none => .error (.config s!"Invalid {name}")

end Environment

namespace Config

/-- Only these two words are truth values. -/
def readBool? (s : String) : Option Bool :=
  if s = "true" then some true
  else if s = "false" then some false
  else none

/-- The longest that one execution can take: every request may run into its timeout, and every
poll also waits one interval. -/
def maxExecutionTime (c : Config) : Wait :=
  let request := Wait.ofSeconds c.httpTimeoutSecs
  let requests := if c.simulateBeforeSubmit then 3 else 2
  let poll := (Wait.ofMilliseconds c.confirmPollIntervalMs).add request
  (request.times requests).add (poll.times c.confirmMaxAttempts.toNat)

/-- An execution counts as lost only after it must have ended, and after its transaction has
become invalid. -/
def validate (c : Config) : Except Error Unit :=
  let least := c.maxExecutionTime.max (.ofSeconds c.txTimeoutSecs)
  if c.stuckAfterSecs < 0 then
    .error (.config "STUCK_AFTER_SECS must not be negative")
  else if (Wait.ofSeconds c.stuckAfterSecs.toUInt64).nanoseconds ≤ least.nanoseconds then
    let given := toString c.stuckAfterSecs.toInt
    let bound := toString least.seconds
    .error (.config
      s!"STUCK_AFTER_SECS ({given}) must exceed the longest execution ({bound}s)")
  else .ok ()

/-- The settings of an environment; the first one that is missing or malformed is reported. -/
def read (env : Environment) : Except Error Config := do
  let text := fun name default => (env name).getD default
  let config : Config := {
    rpcUrl := text "RPC_URL" "https://soroban-testnet.stellar.org"
    horizonUrl := text "HORIZON_URL" "https://horizon-testnet.stellar.org"
    networkPassphrase := text "NETWORK_PASSPHRASE" "Test SDF Network ; September 2015"
    signerSecret := ← env.need "SIGNER_SECRET"
    sourceAccount := ← env.need "SOURCE_ACCOUNT"
    databaseUrl := text "DATABASE_URL" "sqlite:./payouts.db"
    apiPort := ← env.parsed Numeral.uint16? "API_PORT" 3002
    baseFee := ← env.parsed Numeral.uint32? "BASE_FEE" 100
    txTimeoutSecs := ← env.parsed Numeral.uint64? "TX_TIMEOUT_SECS" 30
    confirmPollIntervalMs := ← env.parsed Numeral.uint64? "CONFIRM_POLL_INTERVAL_MS" 2000
    confirmMaxAttempts := ← env.parsed Numeral.uint32? "CONFIRM_MAX_ATTEMPTS" 30
    simulateBeforeSubmit := ← env.parsed readBool? "SIMULATE_BEFORE_SUBMIT" false
    retryBaseSecs := ← env.parsed Numeral.int64? "RETRY_BASE_SECS" 300
    defaultMaxRetries := ← env.parsed Numeral.uint32? "DEFAULT_MAX_RETRIES" 3
    schedulerIntervalSecs := ← env.parsed Numeral.uint64? "SCHEDULER_INTERVAL_SECS" 300
    schedulerBatchSize := ← env.parsed Numeral.uint32? "SCHEDULER_BATCH_SIZE" 10
    stuckAfterSecs := ← env.parsed Numeral.int64? "STUCK_AFTER_SECS" 1800
    httpTimeoutSecs := ← env.parsed Numeral.uint64? "HTTP_TIMEOUT_SECS" 30 }
  config.validate
  return config

def executor (c : Config) : ExecutorConfig where
  sourceAccount := c.sourceAccount
  passphrase := c.networkPassphrase
  baseFee := c.baseFee
  timeoutSeconds := c.txTimeoutSecs
  pollMilliseconds := c.confirmPollIntervalMs
  maxPolls := c.confirmMaxAttempts
  simulates := c.simulateBeforeSubmit

/-- The policy for retries; absent if the delay is out of range. -/
def retryPolicy? (c : Config) : Option RetryPolicy := do
  return {
    baseUnit := ← Span.ofSeconds? c.retryBaseSecs.toInt
    defaultMaxRetries := c.defaultMaxRetries }

/-- The settings of the sweeps; absent if the age of stuck records is out of range. -/
def scheduler? (c : Config) : Option Engine.SchedulerConfig := do
  return {
    intervalSeconds := c.schedulerIntervalSecs
    batchSize := c.schedulerBatchSize
    stuckAfter := ← Span.ofSeconds? c.stuckAfterSecs.toInt }

end Config

end Disburse
