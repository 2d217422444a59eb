import StreamingService.Lib.Base64
import StreamingService.Lib.Calendar
import StreamingService.Payments.Provider

/-!
# Payments — Daraja

The two requests to Daraja as they are sent: the access token is asked for
with Basic credentials, and a push is authenticated by a password made of the
shortcode, the passkey and a timestamp. Beside what is sent stands a decoder of
the format, which is nobody's code: it undoes the encodings, compares the password
with a passkey it is given, and reads the second and the charge back.
-/

namespace StreamingService

open Lib

/-! ## What is sent -/

/-- `cfg.mpesa`, as far as it goes to Daraja. -/
structure DarajaConfig where
  env : String
  consumerKey : String
  consumerSecret : String
  shortcode : String
  passkey : String

/-- The configuration factory's part. -/
def darajaConfig (env : Env) : DarajaConfig where
  env := (env "MPESA_ENV").getD "sandbox"
  consumerKey := (env "MPESA_CONSUMER_KEY").getD ""
  consumerSecret := (env "MPESA_CONSUMER_SECRET").getD ""
  shortcode := (env "MPESA_SHORTCODE").getD ""
  passkey := (env "MPESA_PASSKEY").getD ""

/-- `Buffer.from(text).toString('base64')`: the UTF-8 bytes, encoded. -/
def toBase64 (text : String) : String :=
  String.ofList (Base64.encode text.toByteArray.data.toList)

/-! ### The local time -/

/-- The getters of a `Date`, from its local time in milliseconds. -/
def getFullYear (localTime : Millis) : Int := (Calendar.ofDay (localTime / 86400000)).year

/-- Counted from 0. -/
def getMonth (localTime : Millis) : Nat := (Calendar.ofDay (localTime / 86400000)).month

def getDate (localTime : Millis) : Nat := (Calendar.ofDay (localTime / 86400000)).date

def getHours (localTime : Millis) : Nat := (localTime / 3600000 % 24).toNat

def getMinutes (localTime : Millis) : Nat := (localTime / 60000 % 60).toNat

def getSeconds (localTime : Millis) : Nat := (localTime / 1000 % 60).toNat

namespace MpesaProvider

/-- `n.toString().padStart(2, '0')`. -/
def pad (n : Nat) : String := String.ofList (Calendar.padded 2 n)

def formatTimestamp (localTime : Millis) : String :=
  toString (getFullYear localTime) ++ pad (getMonth localTime + 1) ++ pad (getDate localTime) ++
    pad (getHours localTime) ++ pad (getMinutes localTime) ++ pad (getSeconds localTime)

/-! ### The requests -/

def baseUrl (c : DarajaConfig) : String :=
  if c.env == "production" then "https://api.safaricom.co.ke"
  else "https://sandbox.safaricom.co.ke"

/-- The `GET` of the access token. -/
structure TokenRequest where
  url : String
  authorization : String

def tokenRequest (c : DarajaConfig) : TokenRequest where
  url := baseUrl c ++ "/oauth/v1/generate?grant_type=client_credentials"
  authorization := "Basic " ++ toBase64 (c.consumerKey ++ ":" ++ c.consumerSecret)

/-- The body of the `POST`. -/
structure StkPushBody where
  BusinessShortCode : String
  Password : String
  Timestamp : String
  TransactionType : String
  Amount : Option Int
  PartyA : String
  PartyB : String
  PhoneNumber : String
  CallBackURL : String
  AccountReference : String
  TransactionDesc : String

/-- The body for a push of the model, sent at a local time. -/
def stkPushBody (c : DarajaConfig) (localTime : Millis) (push : StkPush) : StkPushBody where
  BusinessShortCode := c.shortcode
  Password := toBase64 (c.shortcode ++ c.passkey ++ formatTimestamp localTime)
  Timestamp := formatTimestamp localTime
  TransactionType := "CustomerPayBillOnline"
  Amount := push.amount
  PartyA := push.phoneNumber
  PartyB := c.shortcode
  PhoneNumber := push.phoneNumber
  CallBackURL := push.callBackUrl
  AccountReference := push.accountReference
  TransactionDesc := "Subscription payment"

end MpesaProvider

/-! ## A decoder of the format -/

def fromBase64 (text : String) : Option String := do
  let bytes ← Base64.decode text.toList
  String.fromUTF8? ⟨bytes.toArray⟩

/-- `YYYYMMDDHHmmss`, as a second of local time. -/
def readTimestamp (text : List Char) : Option Int :=
  if text.length = 14 ∧ text.all Char.isDigit then
    match Calendar.readFields [4, 2, 2, 2, 2, 2] text with
    | [year, month, date, hours, minutes, seconds] =>
        some (Calendar.Date.toDay { year, month := month - 1, date } * 86400 +
          (hours * 3600 + minutes * 60 + seconds))
    | _ => none
  else none

/-- A text before and after its first colon. -/
def splitAtColon (text : List Char) : Option (List Char × List Char) :=
  match text.dropWhile (· != ':') with
  | ':' :: rest => some (text.takeWhile (· != ':'), rest)
  | _ => none

/-- The user and the password of Basic credentials. -/
def readCredentials (header : String) : Option (String × String) :=
  if header.toList.take 6 = "Basic ".toList then do
    let text ← fromBase64 (String.ofList (header.toList.drop 6))
    let (user, password) ← splitAtColon text.toList
    some (String.ofList user, String.ofList password)
  else none

/-- What a body says, once its password has been opened. -/
structure DecodedPush where
  shortcode : String
  second : Int
  push : StkPush

/-- Decodes a body with a passkey; a password made with another one does not open. -/
def decodePush (passkey : String) (body : MpesaProvider.StkPushBody) : Option DecodedPush := do
  let opened ← fromBase64 body.Password
  let second ← readTimestamp body.Timestamp.toList
  if opened = body.BusinessShortCode ++ passkey ++ body.Timestamp then
    some
      { shortcode := body.BusinessShortCode
        second
        push :=
          { amount := body.Amount
            phoneNumber := body.PhoneNumber
            callBackUrl := body.CallBackURL
            accountReference := body.AccountReference } }
  else none

/-! ## The encodings are undone -/

theorem fromBase64_toBase64 (text : String) : fromBase64 (toBase64 text) = some text := by
  unfold fromBase64 toBase64
  rw [String.toList_ofList, Base64.decode_encode]
  show String.fromUTF8? text.toByteArray = some text
  rw [String.fromUTF8?, dif_pos text.isValidUTF8]
  rfl

theorem toBase64_inj {text text' : String} : toBase64 text = toBase64 text' ↔ text = text' := by
  constructor
  · intro h
    have hsome : some text = some text' := by
      rw [← fromBase64_toBase64 text, h, fromBase64_toBase64]
    exact Option.some.inj hsome
  · exact congrArg toBase64

theorem splitAtColon_eq {user : List Char} (h : ':' ∉ user) (password : List Char) :
    splitAtColon (user ++ ':' :: password) = some (user, password) := by
  have hpos : ∀ c ∈ user, (c != ':') = true := by
    intro c hc
    have hne : c ≠ ':' := by
      rintro rfl
      exact h hc
    simpa using hne
  unfold splitAtColon
  rw [List.dropWhile_append_of_pos hpos, List.takeWhile_append_of_pos hpos]
  simp

theorem not_mem_of_splitAtColon {text user password : List Char}
    (h : splitAtColon text = some (user, password)) : ':' ∉ user := by
  unfold splitAtColon at h
  split at h
  · cases h
    intro hmem
    have hne := List.all_eq_true.mp List.all_takeWhile ':' hmem
    simp at hne
  · cases h

/-- **Basic credentials are read back exactly when the user has no colon.** -/
theorem readCredentials_iff (user password : String) :
    readCredentials ("Basic " ++ toBase64 (user ++ ":" ++ password)) = some (user, password) ↔
      ':' ∉ user.toList := by
  have hheader : ("Basic " ++ toBase64 (user ++ ":" ++ password)).toList =
      "Basic ".toList ++ (toBase64 (user ++ ":" ++ password)).toList := String.toList_append
  have hbasic : "Basic ".toList.length = 6 := by decide
  have htext : (user ++ ":" ++ password).toList = user.toList ++ ':' :: password.toList := by
    rw [String.toList_append, String.toList_append, List.append_assoc]
    rfl
  unfold readCredentials
  rw [hheader, List.take_left' hbasic, List.drop_left' hbasic, if_pos rfl, String.ofList_toList,
    fromBase64_toBase64]
  show ((splitAtColon (user ++ ":" ++ password).toList).bind fun parts =>
    some (String.ofList parts.1, String.ofList parts.2)) = _ ↔ _
  rw [htext]
  constructor
  · intro h
    obtain ⟨⟨before, after⟩, hsplit, heq⟩ := Option.bind_eq_some_iff.mp h
    cases heq
    rw [String.toList_ofList]
    exact not_mem_of_splitAtColon hsplit
  · intro h
    rw [splitAtColon_eq h]
    simp

/-! ## The timestamp is read back -/

section

variable {localTime : Millis}

theorem getMonth_le (localTime : Millis) : getMonth localTime ≤ 11 :=
  (Calendar.ofDay_bounds _).1

theorem getDate_bounds (localTime : Millis) : 1 ≤ getDate localTime ∧ getDate localTime ≤ 31 :=
  (Calendar.ofDay_bounds _).2

/-- The time of a day, to the second. -/
theorem seconds_of_day (localTime : Millis) :
    (getHours localTime : Int) * 3600 + getMinutes localTime * 60 + getSeconds localTime =
      localTime % 86400000 / 1000 := by
  unfold getHours getMinutes getSeconds
  omega

/-- A year of four digits is written with four. -/
theorem toList_toString_year (h : 1000 ≤ getFullYear localTime ∧ getFullYear localTime ≤ 9999) :
    (toString (getFullYear localTime)).toList =
      Calendar.padded 4 (getFullYear localTime).toNat := by
  generalize getFullYear localTime = year at h
  obtain ⟨n, rfl⟩ := Int.eq_ofNat_of_zero_le (show 0 ≤ year by omega)
  have hlength : (Nat.toDigits 10 n).length = 4 := by
    have hle := (Nat.length_toDigits_le_iff (b := 10) (n := n) (k := 4) (by omega) (by omega)).mpr
      (by omega)
    have hgt := mt (Nat.length_toDigits_le_iff (b := 10) (n := n) (k := 3) (by omega)
      (by omega)).mp (by omega)
    omega
  show n.repr.toList = _
  rw [Nat.toList_repr, Int.toNat_natCast, Calendar.padded, List.leftpad, hlength]
  rfl

/-- The fields of a timestamp, with their widths. -/
def timestampFields (localTime : Millis) : List (Nat × Nat) :=
  [(4, (getFullYear localTime).toNat), (2, getMonth localTime + 1), (2, getDate localTime),
    (2, getHours localTime), (2, getMinutes localTime), (2, getSeconds localTime)]

theorem timestampFields_fit (h : 1000 ≤ getFullYear localTime ∧ getFullYear localTime ≤ 9999) :
    ∀ f ∈ timestampFields localTime, 0 < f.1 ∧ f.2 < 10 ^ f.1 := by
  have hmonth := getMonth_le localTime
  have hdate := getDate_bounds localTime
  have hhours : getHours localTime < 24 := by
    unfold getHours
    omega
  have hminutes : getMinutes localTime < 60 := by
    unfold getMinutes
    omega
  have hseconds : getSeconds localTime < 60 := by
    unfold getSeconds
    omega
  simp only [timestampFields, List.forall_mem_cons]
  refine ⟨?_, ?_, ?_, ?_, ?_, ?_, by simp⟩ <;> omega

theorem toList_formatTimestamp (h : 1000 ≤ getFullYear localTime ∧ getFullYear localTime ≤ 9999) :
    (MpesaProvider.formatTimestamp localTime).toList =
      Calendar.spell (timestampFields localTime) := by
  simp only [MpesaProvider.formatTimestamp, MpesaProvider.pad, String.toList_append,
    String.toList_ofList, toList_toString_year h, List.append_assoc, timestampFields,
    Calendar.spell, List.append_nil]

/-- **The timestamp is the second it was made in.** -/
theorem readTimestamp_formatTimestamp
    (h : 1000 ≤ getFullYear localTime ∧ getFullYear localTime ≤ 9999) :
    readTimestamp (MpesaProvider.formatTimestamp localTime).toList = some (localTime / 1000) := by
  have hfit := timestampFields_fit h
  have hlength : (Calendar.spell (timestampFields localTime)).length = 14 :=
    Calendar.length_spell hfit
  have hdigits : (Calendar.spell (timestampFields localTime)).all Char.isDigit = true :=
    List.all_eq_true.mpr fun c hc => Calendar.isDigit_of_mem_spell hc
  have hread : Calendar.readFields [4, 2, 2, 2, 2, 2] (Calendar.spell (timestampFields localTime)) =
      (timestampFields localTime).map Prod.snd := Calendar.readFields_spell hfit
  rw [readTimestamp, toList_formatTimestamp h, if_pos ⟨hlength, hdigits⟩, hread]
  show some (Calendar.Date.toDay _ * 86400 + _) = _
  -- the date is the day's, and the rest is the time of the day
  have hday : Calendar.Date.toDay
      { year := ((getFullYear localTime).toNat : Int), month := getMonth localTime + 1 - 1,
        date := getDate localTime } = localTime / 86400000 := by
    rw [Int.toNat_of_nonneg (show 0 ≤ getFullYear localTime by omega)]
    exact Calendar.toDay_ofDay (localTime / 86400000)
  rw [hday, seconds_of_day]
  congr 1
  omega

end

/-! ## The guarantee -/

section

variable {c : DarajaConfig} {localTime localTime' : Int}

theorem append_cancel {a middle middle' b : String} :
    a ++ middle ++ b = a ++ middle' ++ b ↔ middle = middle' := by
  simp [← String.toList_inj]

/-- Only the passkey that made the password opens it. -/
theorem decodePush_iff (h : 1000 ≤ getFullYear localTime ∧ getFullYear localTime ≤ 9999)
    (push : StkPush) (passkey : String) (decoded : DecodedPush) :
    decodePush passkey (MpesaProvider.stkPushBody c localTime push) = some decoded ↔
      passkey = c.passkey ∧ decoded = ⟨c.shortcode, localTime / 1000, push⟩ := by
  unfold decodePush MpesaProvider.stkPushBody
  rw [fromBase64_toBase64, readTimestamp_formatTimestamp h]
  show (if c.shortcode ++ c.passkey ++ MpesaProvider.formatTimestamp localTime =
      c.shortcode ++ passkey ++ MpesaProvider.formatTimestamp localTime then
    some (⟨c.shortcode, localTime / 1000, push⟩ : DecodedPush) else none) = some decoded ↔ _
  by_cases hkey : passkey = c.passkey
  · subst hkey
    rw [if_pos rfl]
    simp [eq_comm]
  · rw [if_neg fun hsame => hkey (append_cancel.mp hsame).symm]
    simp [hkey]

theorem formatTimestamp_congr (h : localTime / 1000 = localTime' / 1000) :
    MpesaProvider.formatTimestamp localTime = MpesaProvider.formatTimestamp localTime' := by
  have hday : localTime / 86400000 = localTime' / 86400000 := by omega
  have hhour : localTime / 3600000 = localTime' / 3600000 := by omega
  have hminute : localTime / 60000 = localTime' / 60000 := by omega
  simp only [MpesaProvider.formatTimestamp, getFullYear, getMonth, getDate, getHours, getMinutes,
    getSeconds, hday, hhour, hminute, h]

/-- Two pushes have one password exactly when they were sent in one second. -/
theorem password_eq_iff (h : 1000 ≤ getFullYear localTime ∧ getFullYear localTime ≤ 9999)
    (h' : 1000 ≤ getFullYear localTime' ∧ getFullYear localTime' ≤ 9999) (push push' : StkPush) :
    (MpesaProvider.stkPushBody c localTime push).Password =
        (MpesaProvider.stkPushBody c localTime' push').Password ↔
      localTime / 1000 = localTime' / 1000 := by
  show toBase64 _ = toBase64 _ ↔ _
  rw [toBase64_inj]
  constructor
  · intro htext
    have hsame : MpesaProvider.formatTimestamp localTime =
        MpesaProvider.formatTimestamp localTime' := by
      simpa [← String.toList_inj] using htext
    have hread := readTimestamp_formatTimestamp h
    rw [hsame, readTimestamp_formatTimestamp h'] at hread
    exact (Option.some.inj hread).symm
  · intro hsecond
    rw [formatTimestamp_congr hsecond]

end

/-- **The requests to Daraja can be read back**, in any year of four digits: a push
is decoded with the passkey it was made with and no other, into the second it was
sent in and its charge; another second has another password; and the credentials of
the token request are the configured ones, unless the consumer key has a colon. -/
theorem daraja_reads_requests (c : DarajaConfig) {localTime : Millis}
    (h : 1000 ≤ getFullYear localTime ∧ getFullYear localTime ≤ 9999) (push : StkPush) :
    (∀ passkey decoded,
      decodePush passkey (MpesaProvider.stkPushBody c localTime push) = some decoded ↔
        passkey = c.passkey ∧ decoded = ⟨c.shortcode, localTime / 1000, push⟩) ∧
    (∀ localTime' push', 1000 ≤ getFullYear localTime' ∧ getFullYear localTime' ≤ 9999 →
      ((MpesaProvider.stkPushBody c localTime push).Password =
          (MpesaProvider.stkPushBody c localTime' push').Password ↔
        localTime / 1000 = localTime' / 1000)) ∧
    (readCredentials (MpesaProvider.tokenRequest c).authorization =
        some (c.consumerKey, c.consumerSecret) ↔ ':' ∉ c.consumerKey.toList) :=
  ⟨decodePush_iff h push, fun _ push' h' => password_eq_iff h h' push push', readCredentials_iff _ _⟩

/-- The sandbox's shortcode, with a passkey and credentials. -/
def sampleDaraja : DarajaConfig := darajaConfig fun key =>
  [("MPESA_CONSUMER_KEY", "a-consumer"), ("MPESA_CONSUMER_SECRET", "a-secret"),
    ("MPESA_SHORTCODE", "174379"), ("MPESA_PASSKEY", "a-passkey")].lookup key

/-- A push sent on the 29th of February 2024 at 23:59:59: its passkey decodes it, and an
empty one does not. -/
theorem daraja_reads_requests_sample :
    MpesaProvider.formatTimestamp 1709251199999 = "20240229235959" ∧
      (∀ push, decodePush "a-passkey" (MpesaProvider.stkPushBody sampleDaraja 1709251199999 push) =
        some ⟨"174379", 1709251199, push⟩) ∧
      (∀ push decoded,
        decodePush "" (MpesaProvider.stkPushBody sampleDaraja 1709251199999 push) ≠ some decoded) ∧
      readCredentials (MpesaProvider.tokenRequest sampleDaraja).authorization =
        some ("a-consumer", "a-secret") := by
  have reads := daraja_reads_requests sampleDaraja
    (show 1000 ≤ getFullYear 1709251199999 ∧ getFullYear 1709251199999 ≤ 9999 by decide +kernel)
  refine ⟨by decide +kernel, fun push => ?_, fun push decoded h => ?_, ?_⟩
  · exact ((reads push).1 "a-passkey" _).mpr ⟨rfl, rfl⟩
  · obtain ⟨hkey, -⟩ := ((reads push).1 "" decoded).mp h
    exact absurd hkey (by decide +kernel)
  · exact (reads ⟨none, "", "", ""⟩).2.2.mpr (by decide +kernel)

end StreamingService
