import Mathlib.Data.Rat.Defs
import Mathlib.Data.Rat.Floor

/-!
# Js

The JavaScript values the backend reads from outside: parsed JSON with
`undefined`, the operators the handlers apply to it (member access,
truthiness, `??`, `===`, `String(v)`), and the number and date parsing of
the configuration.

A payload is cast, not validated, so a handler may meet any value at any
member. `JsVal` is the value of such an expression; `none` is
`undefined`, which JSON itself cannot hold.
-/

namespace StreamingService

/-- A parsed JSON value. A number is its `Number.prototype.toString` text:
two numbers are `===` exactly when these texts agree (`0` and `-0` both
print as `0`, and JSON has no `NaN`). -/
inductive Json where
  | null
  | bool (b : Bool)
  | num (text : String)
  | str (s : String)
  | arr (items : List Json)
  | obj (members : List (String × Json))

/-- The value of an expression: `none` is `undefined`. -/
abbrev JsVal := Option Json

namespace JsVal

/-- `v.name`: a `TypeError` (here `none`) on `undefined` and `null`; a
primitive has none of the members the backend asks for. -/
def member (v : JsVal) (name : String) : Option JsVal :=
  match v with
  | none => none
  | some .null => none
  | some (.obj members) => some (members.lookup name)
  | some _ => some none

/-- The truthiness of a value. -/
def truthy : JsVal → Bool
  | none => false
  | some .null => false
  | some (.bool b) => b
  | some (.num t) => t != "0"
  | some (.str s) => s != ""
  | some (.arr _) => true
  | some (.obj _) => true

/-- `v ?? d`. -/
def orElse (v d : JsVal) : JsVal :=
  match v with
  | none => d
  | some .null => d
  | some x => some x

/-- `v === 's'`, and `typeof v === 'string' && v === s`. -/
def eqString (v : JsVal) (s : String) : Bool :=
  match v with
  | some (.str t) => t == s
  | _ => false

/-- The value when it is a text. -/
def text? (v : JsVal) : Option String :=
  match v with
  | some (.str s) => some s
  | _ => none

/-- `v === 0`. -/
def eqZero : JsVal → Bool
  | some (.num t) => t == "0"
  | _ => false

mutual

/-- `String(v)` of a JSON value. -/
def textOf : Json → String
  | .null => "null"
  | .bool true => "true"
  | .bool false => "false"
  | .num t => t
  | .str s => s
  | .arr items => textOfItems items
  | .obj _ => "[object Object]"

/-- `Array.prototype.join(',')`: a `null` item prints as the empty text. -/
def textOfItems : List Json → String
  | [] => ""
  | [.null] => ""
  | [v] => textOf v
  | .null :: rest => "," ++ textOfItems rest
  | v :: rest => textOf v ++ "," ++ textOfItems rest

end

/-- `String(v)`. -/
def toText : JsVal → String
  | none => "undefined"
  | some v => textOf v

@[simp] theorem toText_str (s : String) : toText (some (.str s)) = s := by
  simp [toText, textOf]

end JsVal

/-! ## Numbers and dates -/

/-- A number of milliseconds since the epoch. -/
abbrev Millis := Int

/-- `new Date(ms)` is a valid date in this range only. -/
def maxDateMillis : Int := 8640000000000000

/-- The instant a `Date` built from `ms` denotes; `none` is the invalid
date, which Prisma rejects. `NaN` (an input `none`) gives it as well. -/
def validDate (ms : Option Int) : Option Millis :=
  match ms with
  | none => none
  | some t => if -maxDateMillis ≤ t ∧ t ≤ maxDateMillis then some t else none

theorem validDate_some {ms : Option Int} {t : Millis} (h : validDate ms = some t) :
    ms = some t ∧ -maxDateMillis ≤ t ∧ t ≤ maxDateMillis := by
  cases ms with
  | none => simp [validDate] at h
  | some x =>
      simp only [validDate] at h
      split at h
      · rename_i hb
        cases h
        exact ⟨rfl, hb⟩
      · cases h

/-- JavaScript's white space: its `WhiteSpace` and `LineTerminator` characters. -/
def isJsSpace (c : Char) : Bool :=
  c == ' ' || c == '\t' || c == '\n' || c == '\r' || c == '\x0b' || c == '\x0c' ||
    c == '\u00a0' || c == '\ufeff' || c == '\u1680' || ('\u2000' ≤ c && c ≤ '\u200a') ||
    c == '\u2028' || c == '\u2029' || c == '\u202f' || c == '\u205f' || c == '\u3000'

/-- The value of a run of decimal digits. -/
def digitsValue (digits : List Char) : Nat :=
  digits.foldl (fun acc c => acc * 10 + (c.toNat - '0'.toNat)) 0

/-- The optional sign of a number: its factor, and the rest. -/
def splitSign : List Char → Int × List Char
  | '-' :: rest => (-1, rest)
  | '+' :: rest => (1, rest)
  | rest => (1, rest)

/-- `parseInt(s, 10)`: the longest run of digits after white space and an
optional sign; `none` is `NaN`. A run too long for a double is kept exact
here: it denotes a number far outside the range of dates either way. -/
def parseInt (s : String) : Option Int :=
  let (sign, rest) := splitSign (s.toList.dropWhile isJsSpace)
  match rest.takeWhile Char.isDigit with
  | [] => none
  | digits => some (sign * (digitsValue digits : Int))

/-- The exponent part of a decimal literal, when one follows. -/
def splitExponent : List Char → Int
  | e :: rest =>
      if e == 'e' || e == 'E' then
        let (sign, digits) := splitSign rest
        sign * (digitsValue (digits.takeWhile Char.isDigit) : Int)
      else 0
  | [] => 0

/-- `parseFloat(s)`: the longest decimal literal after white space, as an
exact rational; `none` stands for `NaN` and the infinities. -/
def parseFloat (s : String) : Option Rat :=
  let (sign, rest) := splitSign (s.toList.dropWhile isJsSpace)
  let whole := rest.takeWhile Char.isDigit
  let afterWhole := rest.dropWhile Char.isDigit
  let (frac, tail) := match afterWhole with
    | '.' :: more => (more.takeWhile Char.isDigit, more.dropWhile Char.isDigit)
    | other => ([], other)
  match whole ++ frac with
  | [] => none
  | digits =>
      let mantissa : Rat := (sign * (digitsValue digits : Int) : Int)
      some (mantissa * (10 : Rat) ^ (splitExponent tail - (frac.length : Int)))

example : parseInt " 30days" = some 30 := by decide

example : parseInt "days" = none := by decide

/-- `Math.round`: half-way cases go up. -/
def mathRound (q : Rat) : Int := (q + 1 / 2).floor

/-- A `DECIMAL(10,2)` column holds whole hundredths: the database rounds
half away from zero and refuses eight or more integer digits. -/
def toCents (q : Rat) : Option Int :=
  let cents : Int := if q < 0 then -((-q * 100 + 1 / 2).floor) else (q * 100 + 1 / 2).floor
  if cents.natAbs < 10 ^ 10 then some cents else none

end StreamingService
