import Mathlib.Algebra.Group.Int.Defs
import Mathlib.Algebra.Group.Nat.Defs
import Mathlib.Data.List.Basic
import Mathlib.Data.List.TakeWhile
import Mathlib.Tactic.Common

/-
  The functions of the Rust standard library that the
  gateway calls.

  A Rust `String` or `&str` is a Lean `String`; functions
  that scan it work on its list of characters.  Splitting on
  a character is `List.splitOn`.  A `Result` is an `Except`,
  and the `?` operator is its bind.

  Main declarations:
    * `Rust.bind_eq_ok_iff`
    * `Rust.utf8`
    * `Rust.trim`
    * `Rust.eqIgnoreAsciiCase`
    * `Rust.parseU64`
    * `Rust.parseF32`
    * `Rust.i32`
    * `Rust.toStringLossy`
-/

------------------------------------------------------------
-- Results
------------------------------------------------------------

namespace Rust

variable {ε α β : Type}

/- A sequence returns a value exactly when both parts do. -/
theorem bind_eq_ok_iff
    (result : Except ε α)
    (next : α → Except ε β)
    (value : β) :
    (result >>= next) = .ok value ↔
      ∃ middle,
        result = .ok middle ∧ next middle = .ok value := by
  cases result <;> simp [bind, Except.bind]

/- A sequence fails when its first or its second part does. -/
theorem bind_eq_error_iff
    (result : Except ε α)
    (next : α → Except ε β)
    (error : ε) :
    (result >>= next) = .error error ↔
      result = .error error ∨
        ∃ middle,
          result = .ok middle ∧ next middle = .error error := by
  cases result <;> simp [bind, Except.bind]

@[simp] theorem ok_bind
    (value : α)
    (next : α → Except ε β) :
    (Except.ok value >>= next) = next value :=
  rfl

@[simp] theorem throw_bind
    (error : ε)
    (next : α → Except ε β) :
    ((throw error : Except ε α) >>= next) = throw error :=
  rfl

/- An early `return Err(..)` that was not taken. -/
theorem guard_eq_ok_iff
    (failed : Prop) [Decidable failed]
    (error : ε)
    (rest : Except ε α)
    (value : α) :
    (if failed then throw error else rest) = .ok value ↔
      ¬failed ∧ rest = .ok value := by
  by_cases hFailed : failed
  · simp [hFailed, throw, throwThe, MonadExceptOf.throw]
  · simp [hFailed]

end Rust

------------------------------------------------------------
-- Bytes Of A String
------------------------------------------------------------

namespace Rust

/- `str::as_bytes`: the UTF-8 encoding. -/
def utf8 (text : String) : List UInt8 :=
  text.toList.flatMap String.utf8EncodeChar

/- `String::from_utf8`, and `OsStr::to_str` on Unix. -/
def fromUtf8 (bytes : List UInt8) : Option String :=
  String.fromUTF8? bytes.toByteArray

/- Different strings have different bytes. -/
theorem utf8_injective : Function.Injective utf8 := by
  intro first second hEq
  have hBytes :
      first.toList.utf8Encode = second.toList.utf8Encode :=
    congrArg List.toByteArray hEq
  rw [String.utf8Encode_toList,
    String.utf8Encode_toList] at hBytes
  exact String.toByteArray_inj.mp hBytes

/- Decoding succeeds on what encoding returns, only. -/
theorem fromUtf8_eq_some_iff
    (bytes : List UInt8)
    (text : String) :
    fromUtf8 bytes = some text ↔ bytes = utf8 text := by
  have hEncoded :
      (utf8 text).toByteArray = text.toByteArray :=
    String.utf8Encode_toList
  unfold fromUtf8 String.fromUTF8?
  rw [← List.toByteArray_inj, hEncoded]
  constructor
  · intro hDecoded
    split at hDecoded
    · cases hDecoded
      rfl
    · cases hDecoded
  · intro hBytes
    rw [dif_pos (hBytes ▸ text.isValidUTF8)]
    congr 1
    exact String.toByteArray_inj.mp hBytes

theorem utf8EncodeChar_ascii
    {c : Char}
    (hAscii : c.toNat < 128) :
    String.utf8EncodeChar c = [UInt8.ofNat c.toNat] := by
  have hSmall : c.val.toNat ≤ 127 := Nat.le_of_lt_succ hAscii
  rw [String.utf8EncodeChar, if_pos hSmall]
  rfl

/- Characters below 128 are encoded one byte each. -/
theorem utf8_ofList_ascii
    (text : List Char)
    (hAscii : ∀ c ∈ text, c.toNat < 128) :
    utf8 (String.ofList text) =
      text.map (fun c => UInt8.ofNat c.toNat) := by
  induction text with
  | nil => rfl
  | cons c rest ih =>
      have hRest :=
        ih (fun d hd => hAscii d (List.mem_cons_of_mem _ hd))
      have hHead :=
        utf8EncodeChar_ascii (hAscii c List.mem_cons_self)
      simp only [utf8, String.toList_ofList] at hRest ⊢
      simp [hHead, hRest]

end Rust

------------------------------------------------------------
-- Trimming And Case
------------------------------------------------------------

namespace Rust

/- `char::is_whitespace`: the property `White_Space`. -/
def isWhitespace (c : Char) : Bool :=
  let code := c.toNat
  (9 ≤ code && code ≤ 13) || code == 0x20 ||
    code == 0x85 || code == 0xA0 || code == 0x1680 ||
    (0x2000 ≤ code && code ≤ 0x200A) ||
    code == 0x2028 || code == 0x2029 ||
    code == 0x202F || code == 0x205F || code == 0x3000

/- `str::trim_matches` with a predicate on characters. -/
def trimMatches
    (drop : Char → Bool)
    (text : List Char) : List Char :=
  ((text.dropWhile drop).reverse.dropWhile drop).reverse

/- `str::trim`. -/
def trim (text : List Char) : List Char :=
  trimMatches isWhitespace text

theorem trimMatches_of_none
    (drop : Char → Bool)
    (text : List Char)
    (hKeep : ∀ c ∈ text, drop c = false) :
    trimMatches drop text = text := by
  have hFront : text.dropWhile drop = text := by
    cases text with
    | nil => rfl
    | cons c rest =>
        simp [hKeep c List.mem_cons_self]
  have hBack : text.reverse.dropWhile drop = text.reverse := by
    cases hReverse : text.reverse with
    | nil => rfl
    | cons c rest =>
        have hMem : c ∈ text :=
          List.mem_reverse.mp (hReverse ▸ List.mem_cons_self)
        simp [hKeep c hMem]
  rw [trimMatches, hFront, hBack, List.reverse_reverse]

/- Trimming only removes characters. -/
theorem trimMatches_subset
    (drop : Char → Bool)
    (text : List Char) :
    trimMatches drop text ⊆ text := by
  intro c hMem
  have hBack :=
    (List.dropWhile_suffix drop).subset
      (List.mem_reverse.mp hMem)
  exact (List.dropWhile_suffix drop).subset
    (List.mem_reverse.mp hBack)

theorem dropWhile_of_head
    {drop : Char → Bool}
    {text : List Char}
    (hHead : ∀ c ∈ text.head?, drop c = false) :
    text.dropWhile drop = text := by
  cases text with
  | nil => rfl
  | cons c rest =>
      rw [List.dropWhile_cons_of_neg]
      simp [hHead c rfl]

/- Trimming removes what surrounds a text. -/
theorem trimMatches_surrounded
    {drop : Char → Bool}
    {before text after : List Char}
    (hBefore : ∀ c ∈ before, drop c = true)
    (hAfter : ∀ c ∈ after, drop c = true)
    (hFirst : ∀ c ∈ text.head?, drop c = false)
    (hLast : ∀ c ∈ text.getLast?, drop c = false) :
    trimMatches drop (before ++ text ++ after) = text := by
  have hAfter' : ∀ c ∈ after.reverse, drop c = true :=
    fun c hMem => hAfter c (List.mem_reverse.mp hMem)
  unfold trimMatches
  rw [List.append_assoc,
    List.dropWhile_append_of_pos hBefore]
  cases text with
  | nil =>
      rw [List.nil_append,
        List.dropWhile_eq_nil_iff.mpr hAfter]
      rfl
  | cons c rest =>
      have hHead : ∀ d ∈ ((c :: rest) ++ after).head?,
          drop d = false :=
        hFirst
      rw [dropWhile_of_head hHead, List.reverse_append,
        List.dropWhile_append_of_pos hAfter',
        dropWhile_of_head, List.reverse_reverse]
      rw [List.head?_reverse]
      exact hLast

theorem count_dropWhile
    {drop : Char → Bool}
    {c : Char}
    (hKeep : drop c = false)
    (text : List Char) :
    (text.dropWhile drop).count c = text.count c := by
  induction text with
  | nil => rfl
  | cons d rest ih =>
      by_cases hDrop : drop d = true
      · have hNe : d ≠ c := by
          rintro rfl
          rw [hKeep] at hDrop
          cases hDrop
        rw [List.dropWhile_cons_of_pos hDrop, ih,
          List.count_cons_of_ne hNe]
      · rw [List.dropWhile_cons_of_neg hDrop]

/- Trimming keeps every other character. -/
theorem count_trimMatches
    {drop : Char → Bool}
    {c : Char}
    (hKeep : drop c = false)
    (text : List Char) :
    (trimMatches drop text).count c = text.count c := by
  unfold trimMatches
  rw [List.count_reverse, count_dropWhile hKeep,
    List.count_reverse, count_dropWhile hKeep]

theorem dropWhile_congr
    {drop drop' : Char → Bool}
    {text : List Char}
    (hAgree : ∀ c ∈ text, drop c = drop' c) :
    text.dropWhile drop = text.dropWhile drop' := by
  induction text with
  | nil => rfl
  | cons c rest ih =>
      rw [List.forall_mem_cons] at hAgree
      simp only [List.dropWhile_cons, hAgree.1, ih hAgree.2]

/- Trimming looks at the characters of the text alone. -/
theorem trimMatches_congr
    {drop drop' : Char → Bool}
    {text : List Char}
    (hAgree : ∀ c ∈ text, drop c = drop' c) :
    trimMatches drop text = trimMatches drop' text := by
  have hRest :
      ∀ c ∈ (text.dropWhile drop').reverse,
        drop c = drop' c :=
    fun c hMem =>
      hAgree c ((List.dropWhile_suffix drop').subset
        (List.mem_reverse.mp hMem))
  unfold trimMatches
  rw [dropWhile_congr hAgree, dropWhile_congr hRest]

/- The parts of a split hold characters of the text. -/
theorem subset_of_mem_splitOn
    {letter : Type}
    [BEq letter]
    {separator : letter}
    {text part : List letter}
    (hPart : part ∈ text.splitOn separator) :
    part ⊆ text := by
  induction text generalizing part with
  | nil =>
      rw [List.splitOn_nil, List.mem_singleton] at hPart
      rw [hPart]
      exact List.nil_subset _
  | cons c rest ih =>
      rw [List.splitOn_cons_eq_if_modifyHead] at hPart
      split at hPart
      · rcases List.mem_cons.mp hPart with rfl | hRest
        · exact List.nil_subset _
        · exact List.subset_cons_of_subset c (ih hRest)
      · cases hParts : rest.splitOn separator with
        | nil =>
            rw [hParts] at hPart
            cases hPart
        | cons first others =>
            rw [hParts, List.modifyHead_cons] at hPart
            rcases List.mem_cons.mp hPart with rfl | hRest
            · apply List.cons_subset_cons
              exact ih (hParts ▸ List.mem_cons_self)
            · apply List.subset_cons_of_subset c
              exact ih (hParts ▸ List.mem_cons_of_mem _ hRest)

/- An injective renaming of the letters keeps a split. -/
theorem splitOn_map
    {letter other : Type}
    [BEq letter] [LawfulBEq letter]
    [BEq other] [LawfulBEq other]
    {f : letter → other}
    (hInjective : Function.Injective f)
    (separator : letter)
    (text : List letter) :
    (text.map f).splitOn (f separator) =
      (text.splitOn separator).map (List.map f) := by
  induction text with
  | nil => simp
  | cons c rest ih =>
      rw [List.map_cons, List.splitOn_cons_eq_if_modifyHead,
        List.splitOn_cons_eq_if_modifyHead, ih]
      by_cases hEq : c = separator
      · simp [hEq]
      · have hNe : f c ≠ f separator := hInjective.ne hEq
        cases hParts : rest.splitOn separator with
        | nil => simp [hEq, hNe]
        | cons part parts => simp [hEq, hNe]

/- What is appended without a separator is in the last part. -/
theorem splitOn_append_of_not_mem
    {separator : Char}
    {after : List Char}
    (text : List Char)
    (hAfter : separator ∉ after) :
    ∃ parts last,
      text.splitOn separator = parts ++ [last] ∧
        (text ++ after).splitOn separator =
          parts ++ [last ++ after] := by
  induction text with
  | nil =>
      refine ⟨[], [], rfl, ?_⟩
      rw [List.nil_append,
        List.splitOn_eq_singleton hAfter]
      rfl
  | cons c rest ih =>
      rcases ih with ⟨parts, last, hRest, hAppend⟩
      rw [List.cons_append,
        List.splitOn_cons_eq_if_modifyHead,
        List.splitOn_cons_eq_if_modifyHead, hRest, hAppend]
      by_cases hEq : c == separator
      · exact ⟨[] :: parts, last, by simp [hEq],
          by simp [hEq]⟩
      · cases parts with
        | nil =>
            exact ⟨[], c :: last, by simp [hEq],
              by simp [hEq]⟩
        | cons first others =>
            exact ⟨(c :: first) :: others, last,
              by simp [hEq], by simp [hEq]⟩

/- The parts of a joined text are those of its pieces. -/
theorem splitOn_intercalate_pieces
    {separator : Char}
    {pieces : List (List Char)}
    (hPieces : pieces ≠ []) :
    ([separator].intercalate pieces).splitOn separator =
      pieces.flatMap (·.splitOn separator) := by
  induction pieces with
  | nil => exact absurd rfl hPieces
  | cons piece rest ih =>
      cases rest with
      | nil => simp
      | cons next others =>
          rw [List.intercalate_cons_cons, List.append_assoc,
            List.singleton_append,
            List.splitOn_append_cons_self,
            ih (List.cons_ne_nil _ _)]
          rfl

/- `str::strip_prefix`. -/
def stripPrefix
    (pattern text : List Char) : Option (List Char) :=
  if pattern.isPrefixOf text then
    some (text.drop pattern.length)
  else
    none

/- `char::to_ascii_lowercase`. -/
def asciiLowercase (c : Char) : Char :=
  if 'A' ≤ c ∧ c ≤ 'Z' then Char.ofNat (c.toNat + 32) else c

/- `str::to_ascii_lowercase`. -/
def toAsciiLowercase (text : List Char) : List Char :=
  text.map asciiLowercase

theorem toAsciiLowercase_of_lower
    (text : List Char)
    (hLower : ∀ c ∈ text, asciiLowercase c = c) :
    toAsciiLowercase text = text := by
  rw [toAsciiLowercase, List.map_congr_left hLower]
  exact List.map_id text

/- `str::eq_ignore_ascii_case`. -/
def eqIgnoreAsciiCase (first second : List Char) : Bool :=
  toAsciiLowercase first == toAsciiLowercase second

end Rust

------------------------------------------------------------
-- Numbers
------------------------------------------------------------

namespace Rust

/- `str::parse::<u64>`: an optional plus sign and digits. -/
def parseU64 (text : List Char) : Option Nat :=
  let digits :=
    match text with
    | '+' :: rest => rest
    | _ => text
  if digits.isEmpty || !digits.all Char.isDigit then
    none
  else
    let value := Nat.ofDigitChars 10 digits 0
    if value < 2 ^ 64 then some value else none

/- A printed number is parsed as itself. -/
theorem parseU64_toDigits
    (n : Nat)
    (hBound : n < 2 ^ 64) :
    parseU64 (Nat.toDigits 10 n) = some n := by
  have hDigits : ∀ c ∈ Nat.toDigits 10 n, c.isDigit = true :=
    fun c hc =>
      Nat.isDigit_of_mem_toDigits (by decide) (by decide) hc
  have hHead : ∀ rest, Nat.toDigits 10 n ≠ '+' :: rest := by
    intro rest hPlus
    have hDigit := hDigits '+' (by simp [hPlus])
    exact absurd hDigit (by decide)
  have hNonempty : (Nat.toDigits 10 n).isEmpty = false := by
    simp [Nat.toDigits_ne_nil]
  have hAll : (Nat.toDigits 10 n).all Char.isDigit = true :=
    List.all_eq_true.mpr hDigits
  unfold parseU64
  split
  · rename_i rest hPlus
    exact absurd hPlus (hHead rest)
  · simp only [hNonempty, hAll, Bool.not_true,
      Bool.or_self, Bool.false_eq_true, if_false,
      Nat.ofDigitChars_ten_toDigits]
    exact if_pos hBound

/-
  A parsed `f32`.  The gateway only compares it with zero,
  so a finite value keeps its sign and whether its magnitude
  rounds to zero.
-/
inductive F32 where
  | nan
  | infinite (negative : Bool)
  | finite (negative zero : Bool)
  deriving DecidableEq, Repr

namespace F32

/- The literal `1.0_f32`. -/
def one : F32 :=
  .finite false false

/- `value <= 0.0`, false for a NaN. -/
def leZero : F32 → Bool
| .nan => false
| .infinite negative => negative
| .finite negative zero => negative || zero

end F32

/- A decimal exponent: an optional sign and digits. -/
def parseExponent : List Char → Option Int
| [] => some 0
| marker :: rest =>
    let negative := rest.head? == some '-'
    let digits :=
      match rest with
      | '+' :: digits => digits
      | '-' :: digits => digits
      | _ => rest
    if asciiLowercase marker != 'e' || digits.isEmpty ||
        !digits.all Char.isDigit then
      none
    else
      let value := Nat.ofDigitChars 10 digits 0
      some (if negative then -(value : Int) else value)

/-
  The number `mantissa * 10 ^ exponent` as an `f32`, rounded
  to nearest: magnitudes up to half of the least subnormal,
  `2 ^ -150`, become zero.
-/
def roundsToZero (mantissa : Nat) (exponent : Int) : Bool :=
  mantissa == 0 ||
    (exponent < 0 &&
      mantissa * 2 ^ 150 ≤ 10 ^ exponent.natAbs)

/- Digits with an optional point and exponent. -/
def parseDecimal (text : List Char) : Option Bool :=
  let whole := text.takeWhile Char.isDigit
  let afterWhole := text.dropWhile Char.isDigit
  let hasPoint := afterWhole.head? == some '.'
  let afterPoint :=
    if hasPoint then afterWhole.drop 1 else afterWhole
  let fraction :=
    if hasPoint then afterPoint.takeWhile Char.isDigit
    else []
  if whole.isEmpty && fraction.isEmpty then
    none
  else
    let mantissa := Nat.ofDigitChars 10 (whole ++ fraction) 0
    match parseExponent (afterPoint.drop fraction.length) with
    | none => none
    | some exponent =>
        some (roundsToZero mantissa
          (exponent - fraction.length))

/-
  `str::parse::<f32>`: an optional sign, then `inf`,
  `infinity` or `nan` in any case, or a decimal number.
-/
def parseF32 (text : List Char) : Option F32 :=
  let negative := text.head? == some '-'
  let magnitude :=
    match text with
    | '+' :: rest => rest
    | '-' :: rest => rest
    | _ => text
  let word := toAsciiLowercase magnitude
  match parseDecimal magnitude with
  | some zero => some (.finite negative zero)
  | none =>
      if word == "inf".toList || word == "infinity".toList then
        some (.infinite negative)
      else if word == "nan".toList then
        some .nan
      else
        none

example : parseF32 "1e-60".toList = some (.finite false true) := by
  decide

end Rust

------------------------------------------------------------
-- Short Decimals
------------------------------------------------------------

namespace Rust

/- Digits are worth nothing exactly when all are zero. -/
theorem ofDigitChars_eq_zero_iff
    (digits : List Char)
    (start : Nat) :
    Nat.ofDigitChars 10 digits start = 0 ↔
      start = 0 ∧ ∀ c ∈ digits, c.toNat - '0'.toNat = 0 := by
  induction digits generalizing start with
  | nil => simp
  | cons c rest ih =>
      rw [Nat.ofDigitChars_cons, ih, List.forall_mem_cons,
        ← and_assoc]
      apply and_congr_left
      intro _
      omega

/- One digit, a point, and further digits. -/
theorem parseDecimal_of_digits
    {first : Char}
    {decimals : List Char}
    (hFirst : first.isDigit = true)
    (hDecimals : decimals.all Char.isDigit = true) :
    parseDecimal (first :: '.' :: decimals) =
      some (roundsToZero
        (Nat.ofDigitChars 10 (first :: decimals) 0)
        (-decimals.length)) := by
  have hTake : decimals.takeWhile Char.isDigit = decimals :=
    List.takeWhile_eq_self_iff.mpr
      (List.all_eq_true.mp hDecimals)
  have hPoint : Char.isDigit '.' = false := by decide
  have hWhole :
      (first :: '.' :: decimals).takeWhile Char.isDigit =
        [first] := by
    simp only [List.takeWhile_cons, hFirst, hPoint]
    rfl
  have hRest :
      (first :: '.' :: decimals).dropWhile Char.isDigit =
        '.' :: decimals := by
    simp only [List.dropWhile_cons, hFirst, hPoint]
    rfl
  have hExponent : parseExponent [] = some 0 := rfl
  unfold parseDecimal
  simp [hWhole, hRest, hTake, hExponent]

/- Three decimals are too few to round to zero. -/
theorem roundsToZero_of_short
    (mantissa decimals : Nat)
    (hShort : decimals ≤ 3) :
    roundsToZero mantissa (-decimals) = (mantissa == 0) := by
  have hPower : 10 ^ decimals ≤ 10 ^ 3 :=
    Nat.pow_le_pow_right (by decide) hShort
  have hBig : (10 : Nat) ^ 3 < 2 ^ 150 := by decide
  have hNatAbs : (-(decimals : Int)).natAbs = decimals := by
    omega
  unfold roundsToZero
  rw [hNatAbs]
  by_cases hZero : mantissa = 0
  · simp [hZero]
  · have hLarge : ¬mantissa * 2 ^ 150 ≤ 10 ^ decimals := by
      omega
    rw [decide_eq_false hLarge, Bool.and_false, Bool.or_false]

end Rust

------------------------------------------------------------
-- Integers Of 32 Bits
------------------------------------------------------------

namespace Rust

/- The integer is an `i32`. -/
def FitsI32 (value : Int) : Prop :=
  -2147483648 ≤ value ∧ value ≤ 2147483647

instance (value : Int) : Decidable (FitsI32 value) := by
  unfold FitsI32
  infer_instance

/- The result of `i32` arithmetic; none is an overflow. -/
def i32 (value : Int) : Option Int :=
  if FitsI32 value then some value else none

theorem i32_eq
    {value : Int}
    (hLow : -2147483648 ≤ value)
    (hHigh : value ≤ 2147483647) :
    i32 value = some value :=
  if_pos ⟨hLow, hHigh⟩

/- Arithmetic that does not overflow goes on. -/
theorem i32_bind
    {value : Int}
    (hLow : -2147483648 ≤ value)
    (hHigh : value ≤ 2147483647)
    {α : Type}
    (next : Int → Option α) :
    (i32 value >>= next) = next value := by
  rw [i32_eq hLow hHigh]
  rfl

end Rust

------------------------------------------------------------
-- Lossy Text
------------------------------------------------------------

namespace Rust

/-
  How many bytes follow a leading byte of UTF-8, and the
  range of the first of them.
-/
def continuations
    (byte : UInt8) : Option (Nat × UInt8 × UInt8) :=
  if 0xC2 ≤ byte ∧ byte ≤ 0xDF then some (1, 0x80, 0xBF)
  else if byte = 0xE0 then some (2, 0xA0, 0xBF)
  else if byte = 0xED then some (2, 0x80, 0x9F)
  else if 0xE1 ≤ byte ∧ byte ≤ 0xEF then
    some (2, 0x80, 0xBF)
  else if byte = 0xF0 then some (3, 0x90, 0xBF)
  else if 0xF1 ≤ byte ∧ byte ≤ 0xF3 then
    some (3, 0x80, 0xBF)
  else if byte = 0xF4 then some (3, 0x80, 0x8F)
  else none

/- The bytes of the first character, or of what begins one. -/
def firstChunk : List UInt8 → List UInt8
| [] => []
| [byte] => [byte]
| byte :: second :: rest =>
    match continuations byte with
    | none => [byte]
    | some (count, low, high) =>
        if low ≤ second ∧ second ≤ high then
          byte :: second ::
            (rest.take (count - 1)).takeWhile fun next =>
              0x80 ≤ next ∧ next ≤ 0xBF
        else [byte]

/- At most `fuel` characters; each broken one is U+FFFD. -/
def lossyChars : Nat → List UInt8 → List Char
| 0, _ => []
| fuel + 1, bytes =>
    let chunk := firstChunk bytes
    if chunk.isEmpty then []
    else
      ((fromUtf8 chunk).map String.toList).getD
          [Char.ofNat 0xFFFD] ++
        lossyChars fuel (bytes.drop chunk.length)

/- `OsStr::to_string_lossy`, and `Path::display`. -/
def toStringLossy (bytes : List UInt8) : String :=
  (fromUtf8 bytes).getD
    (String.ofList (lossyChars bytes.length bytes))

/- Valid text is left as it is. -/
@[simp] theorem toStringLossy_utf8 (text : String) :
    toStringLossy (utf8 text) = text := by
  have hDecoded : fromUtf8 (utf8 text) = some text :=
    (fromUtf8_eq_some_iff _ _).mpr rfl
  rw [toStringLossy, hDecoded]
  rfl

end Rust
