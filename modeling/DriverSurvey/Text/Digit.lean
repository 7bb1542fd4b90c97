/-!
# Digit — numbers in positional notation

Digits of a base up to sixteen, read in either case and written in lower case.  `spelled` reads what `digitsOf` writes.
-/
namespace DriverSurvey

/-- The value of a digit; sixteen for a character that is none. -/
def digitValue (c : Char) : Nat :=
  if '0' ≤ c && c ≤ '9' then c.toNat - '0'.toNat
  else if 'a' ≤ c && c ≤ 'f' then c.toNat - 'a'.toNat + 10
  else if 'A' ≤ c && c ≤ 'F' then c.toNat - 'A'.toNat + 10
  else 16

/-- Whether the character is a digit of a base. -/
def isDigitOf (base : Nat) (c : Char) : Bool := digitValue c < base

/-- Whether the character is a decimal digit. -/
def isDecimal (c : Char) : Bool := isDigitOf 10 c

/-- The number that digits spell. -/
def spelled (base : Nat) (digits : List Char) : Nat :=
  digits.foldl (fun n c => n * base + digitValue c) 0

/-- The digit of a value below sixteen. -/
def digitChar (n : Nat) : Char :=
  if n < 10 then Char.ofNat ('0'.toNat + n) else Char.ofNat ('a'.toNat + (n - 10))

/-- The digits of a number, without zeros in front. -/
def digitsOf (base n : Nat) : List Char :=
  if _h : base < 2 ∨ n < base then [digitChar n]
  else digitsOf base (n / base) ++ [digitChar (n % base)]
termination_by n
decreasing_by exact Nat.div_lt_self (by omega) (by omega)

/-- A number in decimal digits. -/
def decimalText (n : Nat) : String := String.ofList (digitsOf 10 n)

theorem digitValue_digitChar : ∀ {n : Nat}, n < 16 → digitValue (digitChar n) = n := by
  decide

theorem spelled_append (base : Nat) (front back : List Char) :
    spelled base (front ++ back) = back.foldl (fun n c => n * base + digitValue c) (spelled base front) := by
  simp [spelled]

/-- **Reading digits gives the number that was written.** -/
theorem spelled_digitsOf {base : Nat} (hlow : 2 ≤ base) (hhigh : base ≤ 16) (n : Nat) :
    spelled base (digitsOf base n) = n := by
  induction n using digitsOf.induct base with
  | case1 n h =>
    unfold digitsOf
    rw [dif_pos h]
    have : n < 16 := by omega
    simp [spelled, digitValue_digitChar this]
  | case2 n h ih =>
    unfold digitsOf
    rw [dif_neg h, spelled_append, ih]
    have : n % base < 16 := Nat.lt_of_lt_of_le (Nat.mod_lt _ (by omega)) hhigh
    simp only [List.foldl_cons, List.foldl_nil, digitValue_digitChar this]
    exact Nat.div_add_mod' n base

end DriverSurvey
