import AjarGateway.Hashing.Chain
import AjarGateway.Store.Prepared

/-
  What a strong entity tag tells apart.

  A tag shows the hash of all bytes and the length of the
  content.  The steps of the hash are faithful: the prime is
  odd and so has an inverse modulo 2^64.

  Key definitions include:
    * `Store.fnvStep`
    * `Store.Altered`

  Key theorems include:
    * `Store.faithful_fnvStep`
    * `Store.strongEtag_eq_iff`
    * `Store.strongEtag_ne_of_altered`
-/

------------------------------------------------------------
-- Steps Of The Hash
------------------------------------------------------------

namespace AjarGateway

namespace Store

open Hashing

/- One round of the loop of `strongEtag`. -/
def fnvStep (hash : UInt64) (byte : UInt8) : UInt64 :=
  (hash ^^^ byte.toUInt64) * 1099511628211

/- Multiplication by the prime can be undone. -/
theorem mul_fnvPrime_injective :
    Function.Injective
      fun hash : UInt64 => hash * 1099511628211 := by
  have hInverse :
      (1099511628211 : UInt64) * 14886173955864302971 = 1 := by
    decide
  intro hash hash' hSame
  have hUndone :
      hash * 1099511628211 * 14886173955864302971 =
        hash' * 1099511628211 * 14886173955864302971 :=
    congrArg (· * 14886173955864302971) hSame
  rw [UInt64.mul_assoc, UInt64.mul_assoc, hInverse,
    UInt64.mul_one, UInt64.mul_one] at hUndone
  exact hUndone

theorem faithful_fnvStep : Faithful fnvStep where
  state byte := by
    intro hash hash' hSame
    have hMixed := mul_fnvPrime_injective hSame
    exact (UInt64.xor_left_inj _).mp hMixed
  symbol hash := by
    intro byte byte' hSame
    have hMixed := mul_fnvPrime_injective hSame
    exact UInt8.toUInt64_inj.mp
      ((UInt64.xor_right_inj _).mp hMixed)

theorem fnvHash_append (label bytes : List UInt8) :
    fnvHash (label ++ bytes) =
      bytes.foldl fnvStep (fnvHash label) :=
  List.foldl_append

/- Bytes that differ at one position have two hashes. -/
theorem fnvHash_ne
    (label : List UInt8)
    {first second : List UInt8}
    (hDiffer : DifferAtOne first second) :
    fnvHash (label ++ first) ≠ fnvHash (label ++ second) := by
  rw [fnvHash_append, fnvHash_append]
  exact faithful_fnvStep.foldl_ne hDiffer _

end Store

end AjarGateway

------------------------------------------------------------
-- Hexadecimal Digits
------------------------------------------------------------

namespace AjarGateway

namespace Store

/- What a hexadecimal digit stands for. -/
def hexDigit (c : Char) : Nat :=
  if c.isDigit then c.toNat - 48 else c.toNat - 87

/- The number that hexadecimal digits stand for. -/
def hexValue (digits : List Char) : Nat :=
  digits.foldl (fun value c => 16 * value + hexDigit c) 0

theorem hexDigit_digitChar :
    ∀ digit < 16, hexDigit (Nat.digitChar digit) = digit := by
  decide

theorem hexValue_concat (digits : List Char) (c : Char) :
    hexValue (digits ++ [c]) =
      16 * hexValue digits + hexDigit c := by
  rw [hexValue, List.foldl_append]
  rfl

theorem hexValue_toDigits (n : Nat) :
    hexValue (Nat.toDigits 16 n) = n := by
  induction n using Nat.strong_induction_on with
  | _ n ih =>
      rw [Nat.toDigits_eq_if (by decide)]
      split
      · rename_i hSmall
        exact (Nat.zero_add _).trans
          (hexDigit_digitChar n hSmall)
      · rename_i hLarge
        rw [hexValue_concat, ih (n / 16) (by omega),
          hexDigit_digitChar _ (Nat.mod_lt _ (by decide))]
        omega

/- Padding with zeros does not change the number. -/
theorem hexValue_leftpad (width : Nat) (digits : List Char) :
    hexValue (digits.leftpad width '0') =
      hexValue digits := by
  rw [List.leftpad]
  generalize width - digits.length = zeros
  induction zeros with
  | zero => rfl
  | succ zeros ih =>
      rw [List.replicate_succ]
      exact ih

/- A 64-bit number fits into sixteen digits. -/
theorem length_paddedHash (hash : UInt64) :
    ((Nat.toDigits 16 hash.toNat).leftpad 16 '0').length =
      16 := by
  have hFits :
      (Nat.toDigits 16 hash.toNat).length ≤ 16 :=
    (Nat.length_toDigits_le_iff (by decide) (by decide)).mpr
      hash.toNat_lt
  rw [List.length_leftpad]
  omega

end Store

end AjarGateway

------------------------------------------------------------
-- Tags
------------------------------------------------------------

namespace AjarGateway

namespace Store

open Hashing

theorem strongEtag_toList
    (label bytes : List UInt8)
    (extra : Option (List UInt8)) :
    (strongEtag label bytes extra).toList =
      '"' ::
        ((Nat.toDigits 16
              (fnvHash
                (label ++ bytes ++
                  extra.getD [])).toNat).leftpad 16 '0' ++
          '-' :: (Nat.toDigits 10 bytes.length ++ ['"'])) := by
  simp [strongEtag]

/- A tag shows the hash and the length, and nothing else. -/
theorem strongEtag_eq_iff
    (label label' bytes bytes' : List UInt8)
    (extra extra' : Option (List UInt8)) :
    strongEtag label bytes extra =
        strongEtag label' bytes' extra' ↔
      fnvHash (label ++ bytes ++ extra.getD []) =
          fnvHash (label' ++ bytes' ++ extra'.getD []) ∧
        bytes.length = bytes'.length := by
  constructor
  · intro hSame
    have hChars := congrArg String.toList hSame
    rw [strongEtag_toList, strongEtag_toList] at hChars
    rcases List.append_inj (List.cons.inj hChars).2
        ((length_paddedHash _).trans
          (length_paddedHash _).symm) with
      ⟨hHash, hRest⟩
    have hValue := congrArg hexValue hHash
    rw [hexValue_leftpad, hexValue_leftpad,
      hexValue_toDigits, hexValue_toDigits] at hValue
    have hLength :=
      List.append_cancel_right (List.cons.inj hRest).2
    refine ⟨UInt64.toNat_inj.mp hValue, ?_⟩
    have hNumbers :=
      congrArg (Nat.ofDigitChars 10 · 0) hLength
    rwa [Nat.ofDigitChars_ten_toDigits,
      Nat.ofDigitChars_ten_toDigits] at hNumbers
  · rintro ⟨hHash, hLength⟩
    unfold strongEtag
    rw [hHash, hLength]

/- Content of another length, or with one byte altered. -/
def Altered (first second : List UInt8) : Prop :=
  first.length ≠ second.length ∨ DifferAtOne first second

/- Altered content has another tag. -/
theorem strongEtag_ne_of_altered
    {first second : List UInt8}
    (hAltered : Altered first second)
    (label : List UInt8) :
    strongEtag label first none ≠
      strongEtag label second none := by
  intro hSame
  rcases (strongEtag_eq_iff _ _ _ _ _ _).mp hSame with
    ⟨hHash, hLength⟩
  rcases hAltered with hOther | hDiffer
  · exact hOther hLength
  · rw [Option.getD_none, List.append_nil,
      List.append_nil] at hHash
    exact fnvHash_ne label hDiffer hHash

end Store

end AjarGateway
