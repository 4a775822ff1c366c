import Courier.Breaker.Circuit
import Courier.Service.Retry
import Courier.Decimal.Binary
import Courier.Json.Value

/-!
# Configuration from the environment

The settings are read from environment variables, matched to fields by their lower-cased
names and taken in the byte order of the variables' names. A value is checked as soon as its
variable is met: numbers are unsigned decimals, possibly with a leading `+`, that must fit their
field; enumerations take lower-case names. Two variables for one field are an error, and so is a
missing required field, the first in the order the fields are declared.

The breaker settings follow the environment (`lenient` in development, `strict` in production),
and consumers get four fifths of the shutdown step's time to finish their deliveries.
-/

namespace Courier

open Courier.Breaker Courier.Service Courier.Json

/-- Where the process runs. -/
inductive AppEnvironment where
  | development
  | production
  deriving DecidableEq

/-- The role the process plays. -/
inductive ServiceRole where
  | gateway
  | email
  | push
  deriving DecidableEq

/-- How an environment is named in reports. -/
def AppEnvironment.label : AppEnvironment → String
  | .development => "Development"
  | .production => "Production"

/-- How a role is named in reports. -/
def ServiceRole.label : ServiceRole → String
  | .gateway => "Gateway"
  | .email => "Email"
  | .push => "Push"

/-- The settings of the process. -/
structure Config where
  appEnv : AppEnvironment := .production
  serviceRole : ServiceRole
  serverPort : Nat
  rabbitmqUrl : String
  notificationExchange : String := "notification.delivery"
  prefetchCount : Nat := 10
  queueMaxRetries : Nat := 3
  queueRetryDelayMs : Nat := 20000
  queueRetryBackoffMultiplier : Nat := 1
  redisUrl : String
  idempotencyTtlSeconds : Nat := 86400
  discoveryUrl : String
  internalServiceSecret : String
  userCacheTtlMs : Nat := 3000
  gatewayServiceName : String := "gateway-service"
  templateServiceName : String := "template-service"
  userServiceName : String := "user-service"
  fcmProjectId : Option String := none
  smtpHost : Option String := none
  smtpPort : Option Nat := none
  smtpUsername : Option String := none
  smtpPassword : Option String := none
  smtpFrom : Option String := none
  maxRetryAttempts : Nat := 3
  initialRetryDelayMs : Nat := 100
  maxRetryDelayMs : Nat := 2000
  retryBackoffMultiplier : Nat := 2
  shutdownStepTimeoutSecs : Nat := 10

/-! ### Reading values -/

/-- What a field holds: text, an unsigned number up to a bound, or one of some names. -/
inductive SettingKind where
  | text
  | word (max : Nat)
  | choice (names : List String)

/-- A value read for a field. -/
inductive Setting where
  | text (s : String)
  | number (n : Nat)
  | choice (index : Nat)

/-- The largest values of the unsigned word sizes. -/
def maxU16 : Nat := 65535
def maxU32 : Nat := 4294967295
def maxU64 : Nat := 18446744073709551615

/-- The fields, in the order they are declared. -/
def settingFields : List (String × SettingKind) :=
  [("app_env", .choice ["development", "production"]),
   ("service_role", .choice ["gateway", "email", "push"]),
   ("server_port", .word maxU16), ("rabbitmq_url", .text), ("notification_exchange", .text),
   ("prefetch_count", .word maxU16), ("queue_max_retries", .word maxU32),
   ("queue_retry_delay_ms", .word maxU64), ("queue_retry_backoff_multiplier", .word maxU32),
   ("redis_url", .text), ("idempotency_ttl_seconds", .word maxU64), ("discovery_url", .text),
   ("internal_service_secret", .text), ("user_cache_ttl_ms", .word maxU64),
   ("gateway_service_name", .text), ("template_service_name", .text),
   ("user_service_name", .text), ("fcm_project_id", .text), ("smtp_host", .text),
   ("smtp_port", .word maxU16), ("smtp_username", .text), ("smtp_password", .text),
   ("smtp_from", .text), ("max_retry_attempts", .word maxU32),
   ("initial_retry_delay_ms", .word maxU64), ("max_retry_delay_ms", .word maxU64),
   ("retry_backoff_multiplier", .word maxU64), ("shutdown_step_timeout_secs", .word maxU64)]

/-- The fields without a default, in the order they are declared. -/
def requiredFields : List String :=
  ["service_role", "server_port", "rabbitmq_url", "redis_url", "discovery_url",
    "internal_service_secret"]

/-- Reads decimal digits onto `acc`, failing on a non-digit or once the value passes `max`. -/
def readDigitsUpTo (max : Nat) : List Char → Nat → Except String Nat
  | [], acc => .ok acc
  | c :: rest, acc =>
    if c.isDigit then
      let acc := acc * 10 + (c.toNat - 48)
      if acc > max then .error "number too large to fit in target type"
      else readDigitsUpTo max rest acc
    else .error "invalid digit found in string"

/-- Reads an unsigned number no larger than `max`: decimal digits after an optional `+`. -/
def readUnsigned (max : Nat) (s : String) : Except String Nat :=
  match s.toList with
  | [] => .error "cannot parse integer from empty string"
  | ['+'] | ['-'] => .error "invalid digit found in string"
  | '+' :: rest => readDigitsUpTo max rest 0
  | cs => readDigitsUpTo max cs 0

/-- Lists names as `a`, `a` or `b`, or one of `a`, `b`, `c`, each in backticks. -/
def expectedNames (names : List String) : String :=
  let tick := fun (n : String) => "\x60" ++ n ++ "\x60"
  match names with
  | [] => "no variants"
  | [a] => tick a
  | [a, b] => tick a ++ " or " ++ tick b
  | _ => "one of " ++ String.intercalate ", " (names.map tick)

/-- Reads the value of variable `var` for a field of the given kind. -/
def readSetting (var value : String) : SettingKind → Except String Setting
  | .text => .ok (.text value)
  | .word max =>
    match readUnsigned max value with
    | .ok n => .ok (.number n)
    | .error e => .error (e ++ " while parsing value '" ++ value ++ "' provided by " ++ var)
  | .choice names =>
    match names.idxOf? value with
    | some i => .ok (.choice i)
    | none => .error ("unknown variant \x60" ++ value ++ "\x60, expected " ++ expectedNames names)

/-- Reads the variables, in order, into field values. -/
def readSettings : List (String × String) → List (String × Setting) →
    Except String (List (String × Setting))
  | [], acc => .ok acc
  | (var, value) :: rest, acc =>
    let field := var.toLower
    match settingFields.lookup field with
    | none => readSettings rest acc
    | some kind =>
      if (acc.lookup field).isSome then .error ("duplicate field \x60" ++ field ++ "\x60")
      else do
        let s ← readSetting var value kind
        readSettings rest ((field, s) :: acc)

/-! ### Building the configuration -/

/-- The text of a field, if set. -/
def textOf (ss : List (String × Setting)) (k : String) : Option String :=
  match ss.lookup k with
  | some (.text s) => some s
  | _ => none

/-- The number of a field, if set. -/
def numberOf (ss : List (String × Setting)) (k : String) : Option Nat :=
  match ss.lookup k with
  | some (.number n) => some n
  | _ => none

/-- The choice of a field, if set. -/
def choiceOf (ss : List (String × Setting)) (k : String) : Option Nat :=
  match ss.lookup k with
  | some (.choice i) => some i
  | _ => none

/-- Reads the configuration from environment variables, taken in the order of their names. -/
def Config.load (env : List (String × String)) : Except String Config :=
  let wrap := fun (e : String) => "Invalid or missing environmental variable: " ++ e
  match readSettings (env.mergeSort fun a b => a.1 ≤ b.1) [] with
  | .error e => .error (wrap e)
  | .ok ss =>
    match requiredFields.find? fun f => (ss.lookup f).isNone with
    | some f => .error (wrap ("missing value for field " ++ f))
    | none =>
      let d : Config := { serviceRole := .gateway, serverPort := 0, rabbitmqUrl := "",
                          redisUrl := "", discoveryUrl := "", internalServiceSecret := "" }
      .ok { appEnv := if choiceOf ss "app_env" == some 0 then .development else .production
            serviceRole := match choiceOf ss "service_role" with
              | some 1 => .email
              | some 2 => .push
              | _ => .gateway
            serverPort := (numberOf ss "server_port").getD 0
            rabbitmqUrl := (textOf ss "rabbitmq_url").getD ""
            notificationExchange := (textOf ss "notification_exchange").getD d.notificationExchange
            prefetchCount := (numberOf ss "prefetch_count").getD d.prefetchCount
            queueMaxRetries := (numberOf ss "queue_max_retries").getD d.queueMaxRetries
            queueRetryDelayMs := (numberOf ss "queue_retry_delay_ms").getD d.queueRetryDelayMs
            queueRetryBackoffMultiplier :=
              (numberOf ss "queue_retry_backoff_multiplier").getD d.queueRetryBackoffMultiplier
            redisUrl := (textOf ss "redis_url").getD ""
            idempotencyTtlSeconds :=
              (numberOf ss "idempotency_ttl_seconds").getD d.idempotencyTtlSeconds
            discoveryUrl := (textOf ss "discovery_url").getD ""
            internalServiceSecret := (textOf ss "internal_service_secret").getD ""
            userCacheTtlMs := (numberOf ss "user_cache_ttl_ms").getD d.userCacheTtlMs
            gatewayServiceName := (textOf ss "gateway_service_name").getD d.gatewayServiceName
            templateServiceName := (textOf ss "template_service_name").getD d.templateServiceName
            userServiceName := (textOf ss "user_service_name").getD d.userServiceName
            fcmProjectId := textOf ss "fcm_project_id"
            smtpHost := textOf ss "smtp_host"
            smtpPort := numberOf ss "smtp_port"
            smtpUsername := textOf ss "smtp_username"
            smtpPassword := textOf ss "smtp_password"
            smtpFrom := textOf ss "smtp_from"
            maxRetryAttempts := (numberOf ss "max_retry_attempts").getD d.maxRetryAttempts
            initialRetryDelayMs := (numberOf ss "initial_retry_delay_ms").getD d.initialRetryDelayMs
            maxRetryDelayMs := (numberOf ss "max_retry_delay_ms").getD d.maxRetryDelayMs
            retryBackoffMultiplier :=
              (numberOf ss "retry_backoff_multiplier").getD d.retryBackoffMultiplier
            shutdownStepTimeoutSecs :=
              (numberOf ss "shutdown_step_timeout_secs").getD d.shutdownStepTimeoutSecs }

/-! ### Derived settings -/

/-- Whether the process runs in development. -/
def Config.isDevelopment (c : Config) : Bool := c.appEnv == .development

/-- The retry settings for calls to other services. -/
def Config.retryConfig (c : Config) : RetryConfig :=
  ⟨c.maxRetryAttempts, c.initialRetryDelayMs, c.maxRetryDelayMs, c.retryBackoffMultiplier⟩

/-- The breaker settings, which follow the environment. -/
def Config.breakerConfig (c : Config) : BreakerConfig :=
  if c.isDevelopment then .lenient else .strict

/-- The services whose outage is not retried through the wait queue. -/
def Config.deliveryDependencies (c : Config) : List String :=
  [c.gatewayServiceName, c.templateServiceName]

/-- A binary64 number of seconds as whole seconds and nanoseconds, rounded to the nearest
nanosecond with ties to even. -/
def durationOfSeconds (x : Float) : Nat × Nat :=
  let b := Decimal.Binary.ofBits x.toBits
  let scaled := b.m * 1000000000
  let total := if b.q ≥ 0 then scaled * Nat.pow 2 b.q.toNat
    else
      let d := Nat.pow 2 (-b.q).toNat
      Decimal.roundHalfEven (scaled / d) (scaled % d) d
  (total / 1000000000, total % 1000000000)

/-- The time consumers get to finish their deliveries: four fifths of the shutdown step's,
computed in binary64 as seconds. -/
def Config.consumerGracePeriod (c : Config) : Nat × Nat :=
  durationOfSeconds (0.8 * Decimal.natToFloat c.shutdownStepTimeoutSecs)

/-! ### Reports -/

/-- Breaker settings as JSON. -/
def Breaker.BreakerConfig.toValue (c : BreakerConfig) : Value :=
  .object [("timeout_ms", .nat c.timeoutMs), ("reset_timeout_ms", .nat c.resetTimeoutMs),
    ("error_threshold_percentage", .nat c.errorThresholdPercentage),
    ("volume_threshold", .nat c.volumeThreshold), ("rolling_window_ms", .nat c.rollingWindowMs)]

/-- Retry settings as JSON. -/
def Service.RetryConfig.toValue (r : RetryConfig) : Value :=
  .object [("max_attempts", .nat r.maxAttempts), ("initial_delay_ms", .nat r.initialDelayMs),
    ("max_delay_ms", .nat r.maxDelayMs), ("backoff_multiplier", .nat r.backoffMultiplier)]

/-- The configuration as JSON: the fields, with the retry settings only as `retry_config`, and
the derived settings. -/
def Config.toValue (c : Config) : Value :=
  let (secs, nanos) := c.consumerGracePeriod
  .object [("app_env", .str c.appEnv.label), ("service_role", .str c.serviceRole.label),
    ("server_port", .nat c.serverPort), ("rabbitmq_url", .str c.rabbitmqUrl),
    ("notification_exchange", .str c.notificationExchange),
    ("prefetch_count", .nat c.prefetchCount), ("queue_max_retries", .nat c.queueMaxRetries),
    ("queue_retry_delay_ms", .nat c.queueRetryDelayMs),
    ("queue_retry_backoff_multiplier", .nat c.queueRetryBackoffMultiplier),
    ("redis_url", .str c.redisUrl), ("idempotency_ttl_seconds", .nat c.idempotencyTtlSeconds),
    ("discovery_url", .str c.discoveryUrl),
    ("internal_service_secret", .str c.internalServiceSecret),
    ("user_cache_ttl_ms", .nat c.userCacheTtlMs),
    ("gateway_service_name", .str c.gatewayServiceName),
    ("template_service_name", .str c.templateServiceName),
    ("user_service_name", .str c.userServiceName),
    ("fcm_project_id", .optStr c.fcmProjectId), ("smtp_host", .optStr c.smtpHost),
    ("smtp_port", .ofOption Value.nat c.smtpPort), ("smtp_username", .optStr c.smtpUsername),
    ("smtp_password", .optStr c.smtpPassword), ("smtp_from", .optStr c.smtpFrom),
    ("shutdown_step_timeout_secs", .nat c.shutdownStepTimeoutSecs),
    ("is_development", .bool c.isDevelopment), ("retry_config", c.retryConfig.toValue),
    ("circuit_breaker_config", c.breakerConfig.toValue),
    ("consumer_grace_period", .object [("secs", .nat secs), ("nanos", .nat nanos)]),
    ("delivery_dependencies", .arr (c.deliveryDependencies.map Value.str))]

end Courier
