import StreamingService.Lib.Pattern
import StreamingService.Payments.Service

/-!
# Payments — Msisdn

The numbers a push may be asked for. `MpesaInitiateDto` admits a Kenyan
subscriber's number in either spelling, `0…` or `254…`, and
`normalizeMsisdn` sends both to the second, which is the one Daraja takes.
-/

namespace StreamingService

open Lib

/-- `\d` -/
def decimal : List Char := ['0', '1', '2', '3', '4', '5', '6', '7', '8', '9']

/-- `/^(?:254|0)(7|1)\d{8}$/` -/
def MpesaInitiateDto.pattern : RegularExpression Char :=
  (Pattern.literal ['2', '5', '4'] + Pattern.literal ['0']) * Pattern.oneOf ['7', '1'] *
    Pattern.oneOf decimal ^ 8

/-- The DTO's check of `phoneNumber`. -/
def MpesaInitiateDto.accepts (phoneNumber : String) : Bool :=
  Pattern.test MpesaInitiateDto.pattern phoneNumber

/-- A subscriber's number: what is the same in both spellings. -/
structure Subscriber where
  operator : Char
  line : List Char
  operator_mem : operator ∈ ['7', '1']
  line_length : line.length = 8
  line_decimal : ∀ c ∈ line, c ∈ decimal

namespace Subscriber

theorem ext {n m : Subscriber} (hoperator : n.operator = m.operator) (hline : n.line = m.line) :
    n = m := by
  cases n
  cases m
  cases hoperator
  cases hline
  rfl

/-- `0712345678` -/
def national (n : Subscriber) : String := String.ofList ('0' :: n.operator :: n.line)

/-- `254712345678` -/
def international (n : Subscriber) : String :=
  String.ofList ('2' :: '5' :: '4' :: n.operator :: n.line)

/-- One number, one subscriber. -/
theorem international_inj {n m : Subscriber} (h : n.international = m.international) : n = m := by
  have hlist := congrArg String.toList h
  simp only [international, String.toList_ofList, List.cons.injEq, true_and] at hlist
  exact ext hlist.1 hlist.2

theorem national_inj {n m : Subscriber} (h : n.national = m.national) : n = m := by
  have hlist := congrArg String.toList h
  simp only [national, String.toList_ofList, List.cons.injEq, true_and] at hlist
  exact ext hlist.1 hlist.2

theorem national_ne_international (n m : Subscriber) : n.national ≠ m.international := by
  intro h
  have hlist := congrArg String.toList h
  simp [national, international] at hlist

/-- The subscriber's number, in one of its spellings. -/
def Spells (n : Subscriber) (phoneNumber : String) : Prop :=
  phoneNumber = n.national ∨ phoneNumber = n.international

/-- A number is some one subscriber's. -/
theorem Spells.unique {n m : Subscriber} {phoneNumber : String} (hn : n.Spells phoneNumber)
    (hm : m.Spells phoneNumber) : n = m := by
  rcases hn with rfl | rfl <;> rcases hm with h | h
  · exact national_inj h
  · exact absurd h (national_ne_international n m)
  · exact absurd h.symm (national_ne_international m n)
  · exact international_inj h

theorem normalizeMsisdn_national (n : Subscriber) : normalizeMsisdn n.national = n.international := by
  rw [normalizeMsisdn, national, String.toList_ofList]
  apply String.toList_injective
  simp [international]

theorem normalizeMsisdn_international (n : Subscriber) :
    normalizeMsisdn n.international = n.international := by
  rw [normalizeMsisdn, international, String.toList_ofList]
  rfl

theorem Spells.normalized {n : Subscriber} {phoneNumber : String} (h : n.Spells phoneNumber) :
    normalizeMsisdn phoneNumber = n.international := by
  rcases h with rfl | rfl
  · exact n.normalizeMsisdn_national
  · exact n.normalizeMsisdn_international

end Subscriber

/-- **What the check admits**: the spellings of subscribers' numbers, and nothing
else. -/
theorem accepts_iff {phoneNumber : String} : MpesaInitiateDto.accepts phoneNumber = true ↔
    ∃ n : Subscriber, n.Spells phoneNumber := by
  rw [MpesaInitiateDto.accepts, Pattern.test, MpesaInitiateDto.pattern,
    RegularExpression.mul_rmatch_iff]
  constructor
  · rintro ⟨t, line, hphone, ht, hline⟩
    obtain ⟨code, x, rfl, hcode, hx⟩ := (RegularExpression.mul_rmatch_iff _ _ _).mp ht
    obtain ⟨operator, hoperator, rfl⟩ := Pattern.rmatch_oneOf.mp hx
    obtain ⟨hlength, hdecimal⟩ := Pattern.rmatch_oneOf_pow.mp hline
    refine ⟨⟨operator, line, hoperator, hlength, hdecimal⟩, ?_⟩
    rcases (RegularExpression.add_rmatch_iff _ _ _).mp hcode with hcode | hcode
    · refine .inr (String.toList_injective ?_)
      rw [hphone, Pattern.rmatch_literal.mp hcode]
      simp [Subscriber.international]
    · refine .inl (String.toList_injective ?_)
      rw [hphone, Pattern.rmatch_literal.mp hcode]
      simp [Subscriber.national]
  · rintro ⟨n, h⟩
    have hline := Pattern.rmatch_oneOf_pow.mpr ⟨n.line_length, n.line_decimal⟩
    have hoperator : (Pattern.oneOf ['7', '1']).rmatch [n.operator] = true :=
      Pattern.rmatch_oneOf.mpr ⟨_, n.operator_mem, rfl⟩
    rcases h with rfl | rfl
    · refine ⟨['0', n.operator], n.line, by simp [Subscriber.national], ?_, hline⟩
      refine (RegularExpression.mul_rmatch_iff _ _ _).mpr ⟨['0'], [n.operator], rfl, ?_, hoperator⟩
      exact (RegularExpression.add_rmatch_iff _ _ _).mpr (.inr (Pattern.rmatch_literal.mpr rfl))
    · refine ⟨['2', '5', '4', n.operator], n.line, by simp [Subscriber.international], ?_, hline⟩
      refine (RegularExpression.mul_rmatch_iff _ _ _).mpr
        ⟨['2', '5', '4'], [n.operator], rfl, ?_, hoperator⟩
      exact (RegularExpression.add_rmatch_iff _ _ _).mpr (.inl (Pattern.rmatch_literal.mpr rfl))

example : MpesaInitiateDto.accepts "0712345678" = true := by decide +kernel

example : MpesaInitiateDto.accepts "712345678" = false := by decide +kernel

end StreamingService
