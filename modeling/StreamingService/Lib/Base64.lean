import Mathlib.Data.List.Basic

/-!
# Lib — Base64

Bytes as text: three bytes become four symbols of six bits each, and a last
group of one or two bytes is padded with `=`. The symbols are numbered, so
both directions are arithmetic on a group, and the round trip is an
induction over the groups.
-/

namespace Lib.Base64

/-! ## Symbols -/

/-- The symbol of six bits: `A–Z`, `a–z`, `0–9`, `+`, `/`. -/
def symbol (v : Nat) : Char :=
  if v < 26 then Char.ofNat (65 + v)
  else if v < 52 then Char.ofNat (97 + (v - 26))
  else if v < 62 then Char.ofNat (48 + (v - 52))
  else if v = 62 then '+' else '/'

/-- The six bits of a symbol. -/
def value (c : Char) : Option Nat :=
  if 65 ≤ c.toNat ∧ c.toNat ≤ 90 then some (c.toNat - 65)
  else if 97 ≤ c.toNat ∧ c.toNat ≤ 122 then some (c.toNat - 97 + 26)
  else if 48 ≤ c.toNat ∧ c.toNat ≤ 57 then some (c.toNat - 48 + 52)
  else if c = '+' then some 62
  else if c = '/' then some 63
  else none

theorem value_symbol : ∀ {v : Nat}, v < 64 → value (symbol v) = some v := by decide

theorem symbol_ne_pad : ∀ {v : Nat}, v < 64 → symbol v ≠ '=' := by decide

/-! ## Groups -/

/-- Three bytes are four symbols. -/
def encode : List UInt8 → List Char
  | a :: b :: c :: rest =>
      symbol (a.toNat / 4) :: symbol (a.toNat % 4 * 16 + b.toNat / 16) ::
        symbol (b.toNat % 16 * 4 + c.toNat / 64) :: symbol (c.toNat % 64) :: encode rest
  | [a, b] =>
      [symbol (a.toNat / 4), symbol (a.toNat % 4 * 16 + b.toNat / 16), symbol (b.toNat % 16 * 4),
        '=']
  | [a] => [symbol (a.toNat / 4), symbol (a.toNat % 4 * 16), '=', '=']
  | [] => []

/-- The first, second and third byte of four symbols' bits. -/
def first (w x : Nat) : UInt8 := .ofNat (w * 4 + x / 16)

def second (x y : Nat) : UInt8 := .ofNat (x % 16 * 16 + y / 4)

def third (y z : Nat) : UInt8 := .ofNat (y % 4 * 64 + z)

def decode : List Char → Option (List UInt8)
  | [] => some []
  | [w, x, '=', '='] => do
      let w ← value w
      let x ← value x
      return [first w x]
  | [w, x, y, '='] => do
      let w ← value w
      let x ← value x
      let y ← value y
      return [first w x, second x y]
  | w :: x :: y :: z :: rest => do
      let w ← value w
      let x ← value x
      let y ← value y
      let z ← value z
      let bytes ← decode rest
      return first w x :: second x y :: third y z :: bytes
  | _ => none

theorem first_of (a : UInt8) {n : Nat} (hn : n < 16) :
    first (a.toNat / 4) (a.toNat % 4 * 16 + n) = a := by
  have heq : a.toNat / 4 * 4 + (a.toNat % 4 * 16 + n) / 16 = a.toNat := by omega
  rw [first, heq, UInt8.ofNat_toNat]

theorem second_of (b : UInt8) (m : Nat) {n : Nat} (hn : n < 4) :
    second (m * 16 + b.toNat / 16) (b.toNat % 16 * 4 + n) = b := by
  have hb := b.toNat_lt
  have heq : (m * 16 + b.toNat / 16) % 16 * 16 + (b.toNat % 16 * 4 + n) / 4 = b.toNat := by omega
  rw [second, heq, UInt8.ofNat_toNat]

theorem third_of (c : UInt8) (m : Nat) :
    third (m * 4 + c.toNat / 64) (c.toNat % 64) = c := by
  have hc := c.toNat_lt
  have heq : (m * 4 + c.toNat / 64) % 4 * 64 + c.toNat % 64 = c.toNat := by omega
  rw [third, heq, UInt8.ofNat_toNat]

theorem decode_quad {w x y z : Nat} {rest : List Char} {bytes : List UInt8} (hw : w < 64)
    (hx : x < 64) (hy : y < 64) (hz : z < 64) (hrest : decode rest = some bytes) :
    decode (symbol w :: symbol x :: symbol y :: symbol z :: rest) =
      some (first w x :: second x y :: third y z :: bytes) := by
  have hpad := symbol_ne_pad hz
  rw [decode, value_symbol hw, value_symbol hx, value_symbol hy, value_symbol hz, hrest]
  · rfl
  · intro _ h
    exact absurd h hpad
  · intro h
    exact absurd h hpad

theorem decode_pair {w x y : Nat} (hw : w < 64) (hx : x < 64) (hy : y < 64) :
    decode [symbol w, symbol x, symbol y, '='] = some [first w x, second x y] := by
  rw [decode, value_symbol hw, value_symbol hx, value_symbol hy]
  · rfl
  · exact symbol_ne_pad hy

theorem decode_single {w x : Nat} (hw : w < 64) (hx : x < 64) :
    decode [symbol w, symbol x, '=', '='] = some [first w x] := by
  rw [decode, value_symbol hw, value_symbol hx]
  rfl

/-- **What was encoded decodes to itself.** -/
theorem decode_encode (bytes : List UInt8) : decode (encode bytes) = some bytes := by
  fun_induction encode bytes with
  | case1 a b c rest ih =>
      have ha := a.toNat_lt
      have hb := b.toNat_lt
      have hc := c.toNat_lt
      rw [decode_quad (by omega) (by omega) (by omega) (by omega) ih, first_of a (by omega),
        second_of b _ (by omega), third_of]
  | case2 a b =>
      have ha := a.toNat_lt
      have hb := b.toNat_lt
      have hsecond := second_of b (a.toNat % 4) (show 0 < 4 by omega)
      rw [decode_pair (by omega) (by omega) (by omega), first_of a (by omega)]
      exact congrArg (fun b' => some [a, b']) hsecond
  | case3 a =>
      have ha := a.toNat_lt
      have hfirst := first_of a (show 0 < 16 by omega)
      rw [decode_single (by omega) (by omega)]
      exact congrArg (fun a' => some [a']) hfirst
  | case4 => rfl

end Lib.Base64
