import LogSearch.Proofs.Text.Integer
import LogSearch.Value.Access
import Mathlib.Data.Int.Basic

/-!
# Values that count as integers

A truth value counts as zero or one, a finite floating point number as its integer part, and a text or
some bytes as the integer that they write.  Of no other value an integer is read: an infinity is too
large for one, and what else is no number fails with a fault that tells of the value or its type.

Main statements: `toInt_eq_ok_iff` and `kind_of_toInt`.
-/

namespace LogSearch

/-- The integer part of a finite number is its ratio without what is behind the point. -/
theorem Binary64.truncate_eq (s : Bool) (m : Nat) (e : Int) :
    truncate s m e = (signedRatio s m e).1.tdiv (signedRatio s m e).2 := by
  unfold truncate split signedRatio
  obtain ⟨num, den⟩ := magnitude m e
  cases s with
  | false => rfl
  | true =>
    change -((num / den : Nat) : Int) = (-(num : Int)).tdiv den
    rw [Int.neg_tdiv]
    rfl

namespace Value

/-- A value counts as an integer. -/
inductive CountsAs : Value → Int → Prop
  | bool (b : Bool) : CountsAs (.bool b) (if b then 1 else 0)
  | int (n : Int) : CountsAs (.int n) n
  | float (s : Bool) (m : Nat) (e : Int) (h : Binary64.IsFinite m e) :
      CountsAs (.float (.finite s m e h)) ((Binary64.signedRatio s m e).1.tdiv (Binary64.signedRatio s m e).2)
  | str {s : String} {n : Int} (written : Text.IsInteger Text.digitValue? s.toList n) :
      CountsAs (.str s) n
  /-- Bytes that are no ASCII characters stand for one that is in no integer. -/
  | bytes {octets : List UInt8} {n : Int} (written : Text.IsInteger Text.asciiDigit?
      (octets.map fun b => if b.toNat < 128 then Char.ofNat b.toNat else '?') n) :
      CountsAs (.bytes octets) n

/-- A value is an infinity. -/
def IsInfinite (v : Value) : Prop := ∃ negative, v = .float (.infinite negative)

variable {v : Value} {n : Int} {fault : Fault}

theorem readText_eq_ok_iff {read : Except Text.IntegerError Int} :
    toInt.readText v read = .ok n ↔ read = .ok n := by
  cases read with
  | ok m => exact ⟨fun h => congrArg _ (Except.ok.inj h), fun h => congrArg _ (Except.ok.inj h)⟩
  | error e => cases e <;> exact ⟨nofun, nofun⟩

/-- An integer is read of the values that count as it. -/
theorem toInt_eq_ok_iff : v.toInt = .ok n ↔ v.CountsAs n := by
  constructor
  · intro h
    cases v with
    | bool b =>
      obtain rfl := Except.ok.inj h
      exact .bool b
    | int m =>
      obtain rfl := Except.ok.inj h
      exact .int m
    | float x =>
      cases x with
      | finite s m e isFinite =>
        obtain rfl := Except.ok.inj h
        rw [Binary64.truncate_eq]
        exact .float s m e isFinite
      | _ => cases h
    | str s =>
      exact .str ((Text.readInteger_eq_ok_iff Text.areDigits_digitValue?).1 (readText_eq_ok_iff.1 h))
    | bytes octets =>
      exact .bytes ((Text.readInteger_eq_ok_iff Text.areDigits_asciiDigit?).1 (readText_eq_ok_iff.1 h))
    | _ => cases h
  · intro h
    cases h with
    | bool b => rfl
    | int n => rfl
    | float s m e isFinite => rw [← Binary64.truncate_eq]; rfl
    | str written =>
      exact readText_eq_ok_iff.2 ((Text.readInteger_eq_ok_iff Text.areDigits_digitValue?).2 written)
    | bytes written =>
      exact readText_eq_ok_iff.2 ((Text.readInteger_eq_ok_iff Text.areDigits_asciiDigit?).2 written)

theorem kind_of_readText {read : Except Text.IntegerError Int} (h : toInt.readText v read = .error fault) :
    fault.kind.isValue = true := by
  cases read with
  | ok m => cases h
  | error e =>
    cases e with
    | malformed =>
      obtain rfl := Except.error.inj h
      rfl
    | tooLong digits =>
      obtain rfl := Except.error.inj h
      rfl

theorem toInt_of_isInfinite (h : v.IsInfinite) : v.toInt = .error .infinityToInteger := by
  obtain ⟨negative, rfl⟩ := h
  rfl

/-- Only of an infinity the fault that keeps it from being read tells neither of its type nor of the
value. -/
theorem kind_of_toInt (h : v.toInt = .error fault) (finite : ¬ v.IsInfinite) :
    fault.kind = .type ∨ fault.kind.isValue = true := by
  cases v with
  | bool b => cases h
  | int m => cases h
  | float x =>
    cases x with
    | finite s m e isFinite => cases h
    | infinite negative => exact absurd ⟨negative, rfl⟩ finite
    | nan tag =>
      obtain rfl := Except.error.inj h
      exact .inr rfl
  | str s => exact .inr (kind_of_readText h)
  | bytes octets => exact .inr (kind_of_readText h)
  | _ =>
    obtain rfl := Except.error.inj h
    exact .inl rfl

end Value

end LogSearch
