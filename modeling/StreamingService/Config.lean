import StreamingService.Js

/-!
# Config

The environment the application boots with: the check `AppConfigModule`
runs on it, and the typed configuration the factory builds from it. The
check looks at five variables; every other variable may be missing, and
then the factory's default stands in for it — for the two webhook secrets
that default is the empty string.

Left out: the variables no modelled function reads (port, database and
storage endpoints, provider API credentials).
-/

namespace StreamingService

/-- `process.env`. -/
abbrev Env := String → Option String

namespace AppConfigModule

/-- The variables `validate` requires. -/
def required : List String :=
  ["DATABASE_URL", "JWT_ACCESS_SECRET", "JWT_REFRESH_SECRET", "S3_ACCESS_KEY_ID",
    "S3_SECRET_ACCESS_KEY"]

/-- `!config[key]`: absent and empty count as missing. -/
def isMissing (config : Env) (key : String) : Bool :=
  match config key with
  | none => true
  | some value => value == ""

/-- `validate`: the missing variables make it throw, except under
`NODE_ENV=test`. -/
def validate (config : Env) : Except String Env :=
  if config "NODE_ENV" == some "test" then .ok config
  else
    let missing := required.filter (isMissing config)
    if missing.length > 0 then
      .error ("Missing required environment variables: " ++ ", ".intercalate missing)
    else .ok config

end AppConfigModule

structure SubscriptionConfig where
  /-- `none` is `NaN`. -/
  periodDays : Option Int
  /-- `none` when the price is not a finite number. -/
  priceAmount : Option Rat
  currency : String

structure MpesaConfig where
  callbackUrl : String
  callbackToken : String
  /-- `none` is `NaN`. -/
  stkTimeoutSeconds : Option Int

structure FlutterwaveConfig where
  secretHash : String
  redirectUrl : String

structure JwtConfig where
  refreshTtl : String

structure AppConfig where
  jwt : JwtConfig
  subscription : SubscriptionConfig
  mpesa : MpesaConfig
  flutterwave : FlutterwaveConfig

/-- The configuration factory. -/
def configuration (env : Env) : AppConfig where
  jwt := { refreshTtl := (env "JWT_REFRESH_TTL").getD "30d" }
  subscription :=
    { periodDays := parseInt ((env "SUBSCRIPTION_PERIOD_DAYS").getD "30")
      priceAmount := parseFloat ((env "SUBSCRIPTION_PRICE_AMOUNT").getD "999")
      currency := (env "SUBSCRIPTION_CURRENCY").getD "KES" }
  mpesa :=
    { callbackUrl := (env "MPESA_CALLBACK_URL").getD ""
      callbackToken := (env "MPESA_CALLBACK_TOKEN").getD ""
      stkTimeoutSeconds := parseInt ((env "MPESA_STK_TIMEOUT_SECONDS").getD "120") }
  flutterwave :=
    { secretHash := (env "FLUTTERWAVE_SECRET_HASH").getD ""
      redirectUrl := (env "FLUTTERWAVE_REDIRECT_URL").getD "" }

end StreamingService
