import Mathlib.Algebra.Group.Int
import Lxd.Go.Strings
import Lxd.Go.Except

/-!
# `strconv.ParseUint` and `strconv.ParseInt` in base 10

The digit loop of `ParseUint` takes the bytes in order: each must be a decimal digit, and the
value may not pass `1 << bitSize - 1`. The first failure decides the error, so an overflow
before a bad byte is a range error. `ParseInt` strips one sign, parses the rest with
`ParseUint`, and checks the signed range. An error is a `*NumError`: the function, the whole
input, and the reason.

* `parseUint_ok_iff`: `ParseUint` succeeds exactly on a non-empty string of digits whose value
  fits, and gives that value.
* `parseInt_ok_iff`: `ParseInt` succeeds exactly on such a string after at most one sign, when
  the signed value fits.
-/

namespace Lxd

namespace Go

/-- The reason of a `*strconv.NumError`: `strconv.ErrSyntax` or `strconv.ErrRange`. -/
inductive NumErr
  | errSyntax
  | errRange
  deriving DecidableEq, Repr

/-- `*strconv.NumError`. -/
structure NumError where
  func : String
  num : String
  err : NumErr
  deriving DecidableEq, Repr

/-- `NumError.Error()`. -/
def NumError.msg (e : NumError) : String :=
  "strconv." ++ e.func ++ ": parsing " ++ quote e.num ++ ": " ++
    match e.err with
    | .errSyntax => "invalid syntax"
    | .errRange => "value out of range"

def digitVal (c : Char) : Nat := c.toNat - '0'.toNat

/-- The value of a string of decimal digits, read from `n`. -/
def decimalValue (n : Nat) (cs : List Char) : Nat := cs.foldl (fun a c => a * 10 + digitVal c) n

/-- `maxUint64/10 + 1`: the smallest value whose product by ten overflows. -/
def cutoff10 : Nat := (2 ^ 64 - 1) / 10 + 1

/-- The digit loop of `ParseUint` in base 10, from the value `n` so far. -/
def parseUintLoop (maxVal : Nat) : Nat → List Char → Except NumErr Nat
  | n, [] => .ok n
  | n, c :: cs =>
    if !c.isDigit then .error .errSyntax
    else if n ≥ cutoff10 then .error .errRange
    else
      let n1 := n * 10 + digitVal c
      if n1 > maxVal then .error .errRange else parseUintLoop maxVal n1 cs

/-- `strconv.ParseUint(s, 10, bitSize)` for `0 < bitSize ≤ 64`. -/
def parseUint (s : String) (bitSize : Nat) : Except NumError Nat :=
  if s = "" then .error ⟨"ParseUint", s, .errSyntax⟩
  else (parseUintLoop (2 ^ bitSize - 1) 0 s.toList).mapError fun e => ⟨"ParseUint", s, e⟩

/-- The sign `ParseInt` strips: whether the value is negative, and the rest. -/
def splitSign : List Char → Bool × List Char
  | '+' :: r => (false, r)
  | '-' :: r => (true, r)
  | r => (false, r)

/-- `strconv.ParseInt(s, 10, bitSize)` for `1 < bitSize ≤ 64`. A range error of `ParseUint`
comes with its largest value, which passes both cutoffs. -/
def parseInt (s : String) (bitSize : Nat) : Except NumError Int :=
  if s = "" then .error ⟨"ParseInt", s, .errSyntax⟩
  else
    let (neg, rest) := splitSign s.toList
    match parseUint (String.mk rest) bitSize with
    | .error e =>
      if e.err ≠ .errRange then .error ⟨"ParseInt", s, e.err⟩ else .error ⟨"ParseInt", s, .errRange⟩
    | .ok un =>
      let cutoff := 2 ^ (bitSize - 1)
      if !neg && un ≥ cutoff then .error ⟨"ParseInt", s, .errRange⟩
      else if neg && un > cutoff then .error ⟨"ParseInt", s, .errRange⟩
      else .ok (if neg then -(un : Int) else un)

/-! ## What `ParseUint` accepts -/

theorem decimalValue_cons (n : Nat) (c : Char) (cs : List Char) :
    decimalValue n (c :: cs) = decimalValue (n * 10 + digitVal c) cs := rfl

theorem le_decimalValue : ∀ (n : Nat) (cs : List Char), n ≤ decimalValue n cs
  | _, [] => le_refl _
  | n, c :: cs => le_trans (Nat.le_add_right_of_le (Nat.le_mul_of_pos_right n (by omega)))
      (le_decimalValue (n * 10 + digitVal c) cs)

/-- The loop succeeds exactly on digits whose value, read from `n`, stays within `maxVal`. -/
theorem parseUintLoop_ok_iff {maxVal : Nat} (hmax : maxVal < 2 ^ 64) :
    ∀ {n m : Nat} {cs : List Char}, n ≤ maxVal →
      (parseUintLoop maxVal n cs = .ok m ↔
        (∀ c ∈ cs, c.isDigit) ∧ decimalValue n cs = m ∧ m ≤ maxVal)
  | n, m, [], hn => by
    simp only [parseUintLoop, Except.ok.injEq, List.not_mem_nil, false_implies, implies_true,
      decimalValue, List.foldl_nil, true_and]
    exact ⟨fun h => ⟨h, h ▸ hn⟩, fun h => h.1⟩
  | n, m, c :: cs, hn => by
    have hmax' : maxVal < 18446744073709551616 := by simpa using hmax
    have hgrow := le_decimalValue (n * 10 + digitVal c) cs
    simp only [parseUintLoop, decimalValue_cons, List.forall_mem_cons]
    by_cases hc : c.isDigit
    · simp only [hc, Bool.not_true, Bool.false_eq_true, ↓reduceIte, true_and]
      split_ifs with hcut hov
      · simp only [cutoff10, Nat.reducePow, Nat.reduceSub, Nat.reduceDiv, Nat.reduceAdd] at hcut
        simp only [reduceCtorEq, false_iff]
        rintro ⟨-, rfl, hm⟩
        omega
      · simp only [reduceCtorEq, false_iff]
        rintro ⟨-, rfl, hm⟩
        omega
      · exact parseUintLoop_ok_iff hmax (by omega)
    · simp [hc]

/-- `ParseUint` succeeds exactly on a non-empty string of digits whose value fits in `bitSize`
bits, and gives that value. -/
theorem parseUint_ok_iff {s : String} {bitSize : Nat} (hb : bitSize ≤ 64) {m : Nat} :
    parseUint s bitSize = .ok m ↔
      s ≠ "" ∧ (∀ c ∈ s.toList, c.isDigit) ∧ decimalValue 0 s.toList = m ∧ m < 2 ^ bitSize := by
  have hpos : 0 < 2 ^ bitSize := Nat.two_pow_pos _
  have hmax : 2 ^ bitSize - 1 < 2 ^ 64 :=
    lt_of_lt_of_le (Nat.sub_lt hpos Nat.one_pos) (Nat.pow_le_pow_right Nat.two_pos hb)
  unfold parseUint
  by_cases hs : s = ""
  · simp [hs]
  · simp only [hs, ↓reduceIte, mapError_eq_ok, parseUintLoop_ok_iff hmax (Nat.zero_le _), ne_eq,
      not_false_eq_true, true_and]
    constructor <;> rintro ⟨hd, hv, hm⟩ <;> exact ⟨hd, hv, by omega⟩

/-- `ParseInt` succeeds exactly when what follows the sign is a non-empty string of digits whose
signed value fits in `bitSize` bits, and gives that value. -/
theorem parseInt_ok_iff {s : String} {bitSize : Nat} (hb1 : 1 < bitSize) (hb : bitSize ≤ 64)
    {neg : Bool} {rest : List Char} (hsign : splitSign s.toList = (neg, rest)) {v : Int} :
    parseInt s bitSize = .ok v ↔
      rest ≠ [] ∧ (∀ c ∈ rest, c.isDigit) ∧
        v = (if neg then -(decimalValue 0 rest : Int) else decimalValue 0 rest) ∧
        -2 ^ (bitSize - 1) ≤ v ∧ v < 2 ^ (bitSize - 1) := by
  have hpow : 2 ^ bitSize = 2 * 2 ^ (bitSize - 1) := by
    rw [← Nat.pow_succ', Nat.succ_eq_add_one, Nat.sub_add_cancel (by omega)]
  have hcut : (2 : Int) ^ (bitSize - 1) = ((2 ^ (bitSize - 1) : Nat) : Int) := by push_cast; rfl
  unfold parseInt
  by_cases hs : s = ""
  · subst hs
    cases hsign
    simp
  have hmk : (String.mk rest ≠ "") = (rest ≠ []) := by
    simp only [ne_eq, String.ext_iff, String.data]
  simp only [hs, ↓reduceIte, hsign, hcut]
  have hpos : 0 < 2 ^ bitSize := Nat.two_pow_pos _
  generalize 2 ^ (bitSize - 1) = c at hpow ⊢
  split
  next e hu =>
    refine ⟨fun h => (by split at h <;> cases h), fun ⟨hne, hd, hv, hlo, hhi⟩ => ?_⟩
    have hok := (parseUint_ok_iff hb).mpr ⟨hmk ▸ hne, hd, rfl, ?_⟩
    · rw [hu] at hok
      cases hok
    · show decimalValue 0 rest < 2 ^ bitSize
      cases neg <;> simp only [Bool.false_eq_true, ↓reduceIte] at hv <;> omega
  next un hu =>
    obtain ⟨hne, hd, hv, hlt⟩ := (parseUint_ok_iff hb).mp hu
    obtain rfl : decimalValue 0 rest = un := hv
    have hd : ∀ c ∈ rest, c.isDigit := hd
    simp only [hmk ▸ hne, iff_true_intro hd, ne_eq, not_false_eq_true, true_and]
    cases neg <;> simp only [Bool.not_false, Bool.not_true, Bool.true_and, Bool.false_and,
      Bool.false_eq_true, decide_eq_true_eq, ↓reduceIte] <;> split_ifs <;>
      simp only [reduceCtorEq, false_iff, Except.ok.injEq] <;> (try constructor) <;> intro <;> omega

end Go

end Lxd
