import AjarGateway.Http.FieldValue

/-
  The length of a message body: what a Content-Length value
  declares, and how a limited body is read.

  The reader of a limited body is not part of the
  repository.  It is a parameter, and what it documents is
  the proposition `CutsAtLimit`.

  Key definitions include:
    * `Http.Declares`
    * `Http.DeclaresSigned`
    * `Http.CutsAtLimit`
    * `Http.readLimited`

  Key theorems include:
    * `Http.parseU64_asciiText_iff`
    * `Http.CutsAtLimit.whole_iff`
    * `Http.CutsAtLimit.length_le`
-/

------------------------------------------------------------
-- Declared Lengths
------------------------------------------------------------

namespace Http

def isDigitByte (byte : UInt8) : Bool :=
  0x30 ≤ byte && byte ≤ 0x39

/- The number that ASCII digits denote. -/
def byteNumber (bytes : List UInt8) : Nat :=
  bytes.foldl (fun n byte => 10 * n + (byte.toNat - 0x30)) 0

/- The value is a number: ASCII digits, at least one. -/
def Declares (value : HeaderValue) (n : Nat) : Prop :=
  value.bytes ≠ [] ∧ value.bytes.all isDigitByte = true ∧
    byteNumber value.bytes = n

instance (value : HeaderValue) (n : Nat) :
    Decidable (Declares value n) := by
  unfold Declares
  infer_instance

/- A number may stand after one plus sign. -/
def DeclaresSigned (value : HeaderValue) (n : Nat) : Prop :=
  Declares value n ∨
    ∃ digits,
      value.bytes = 0x2B :: digits ∧ Declares ⟨digits⟩ n

theorem Declares.unique
    {value : HeaderValue} {n m : Nat}
    (hFirst : Declares value n)
    (hSecond : Declares value m) :
    n = m :=
  hFirst.2.2.symm.trans hSecond.2.2

/- A number does not start with a plus sign. -/
theorem Declares.head_ne
    {value : HeaderValue} {n : Nat}
    (hDeclares : Declares value n) :
    value.bytes.head? ≠ some 0x2B := by
  intro hPlus
  have hDigit := List.all_eq_true.mp hDeclares.2.1 0x2B
    (List.mem_of_mem_head? hPlus)
  exact absurd hDigit (by decide)

/- Without a plus sign, a signed number is a number. -/
theorem DeclaresSigned.unsigned
    {value : HeaderValue} {n : Nat}
    (hSigned : DeclaresSigned value n)
    (hHead : value.bytes.head? ≠ some 0x2B) :
    Declares value n := by
  rcases hSigned with hDeclares | ⟨digits, hBytes, _⟩
  · exact hDeclares
  · exact absurd (by rw [hBytes]; rfl) hHead

theorem charOf_isDigit :
    ∀ byte, (charOf byte).isDigit = isDigitByte byte :=
  forall_byte (by decide +kernel)

theorem charOf_eq_plus :
    ∀ byte, charOf byte = '+' ↔ byte = 0x2B :=
  forall_byte (by decide +kernel)

/- Digits read as characters denote the same number. -/
theorem ofDigitChars_map_charOf
    (bytes : List UInt8) :
    Nat.ofDigitChars 10 (bytes.map charOf) 0 =
      byteNumber bytes := by
  rw [Nat.ofDigitChars_eq_foldl, byteNumber, List.foldl_map]
  simp only [charOf_toNat]
  rfl

/- The part of `str::parse` after the sign. -/
theorem parseDigits_iff
    (digits : List Char)
    (n : Nat) :
    (if digits.isEmpty || !digits.all Char.isDigit then none
      else
        let value := Nat.ofDigitChars 10 digits 0
        if value < 2 ^ 64 then some value else none) =
        some n ↔
      digits ≠ [] ∧ digits.all Char.isDigit = true ∧
        Nat.ofDigitChars 10 digits 0 = n ∧ n < 2 ^ 64 := by
  by_cases hEmpty : digits = []
  · simp [hEmpty]
  · cases hAll : digits.all Char.isDigit with
    | false => simp
    | true =>
        have hSome : digits.isEmpty = false := by
          simpa using hEmpty
        simp only [hSome, Bool.not_true, Bool.or_self,
          Bool.false_eq_true, if_false, ne_eq, hEmpty,
          not_false_eq_true, true_and]
        constructor
        · intro hValue
          split at hValue
          · rename_i hBound
            cases hValue
            exact ⟨rfl, hBound⟩
          · cases hValue
        · rintro ⟨rfl, hBound⟩
          exact if_pos hBound

/- `str::parse::<u64>` skips one plus sign. -/
theorem parseU64_iff
    (text : List Char)
    (n : Nat) :
    Rust.parseU64 text = some n ↔
      ∃ digits,
        (text = digits ∨ text = '+' :: digits) ∧
          digits ≠ [] ∧ digits.all Char.isDigit = true ∧
            Nat.ofDigitChars 10 digits 0 = n ∧
              n < 2 ^ 64 := by
  have hPlus : Char.isDigit '+' = false := by decide
  unfold Rust.parseU64
  split
  · rename_i rest
    rw [parseDigits_iff]
    constructor
    · intro hRest
      exact ⟨rest, .inr rfl, hRest⟩
    · rintro ⟨digits, rfl | hEq, hNe, hAll, hValue⟩
      · simp [hPlus] at hAll
      · cases hEq
        exact ⟨hNe, hAll, hValue⟩
  · rename_i hOther
    rw [parseDigits_iff]
    constructor
    · intro hText
      exact ⟨text, .inl rfl, hText⟩
    · rintro ⟨digits, rfl | hEq, hRest⟩
      · exact hRest
      · exact absurd hEq (hOther digits)

theorem all_isDigit_map_charOf (bytes : List UInt8) :
    (bytes.map charOf).all Char.isDigit =
      bytes.all isDigitByte := by
  rw [List.all_map]
  congr 1
  funext byte
  exact charOf_isDigit byte

/- The parser reads the number that the bytes denote. -/
theorem parseU64_asciiText_iff
    (value : HeaderValue)
    (n : Nat) :
    Rust.parseU64 (asciiText value.bytes).toList = some n ↔
      DeclaresSigned value n ∧ n < 2 ^ 64 := by
  have hMap (digits : List UInt8) :
      (digits.map charOf ≠ [] ∧
          (digits.map charOf).all Char.isDigit = true ∧
            Nat.ofDigitChars 10 (digits.map charOf) 0 = n ∧
              n < 2 ^ 64) ↔
        Declares ⟨digits⟩ n ∧ n < 2 ^ 64 := by
    rw [all_isDigit_map_charOf, ofDigitChars_map_charOf, Ne,
      List.map_eq_nil_iff, Declares]
    simp only [and_assoc, ne_eq]
  rw [asciiText_toList, parseU64_iff]
  constructor
  · rintro ⟨digits, hText | hText, hDigits⟩
    · rw [← hText, hMap] at hDigits
      exact ⟨.inl hDigits.1, hDigits.2⟩
    · rcases List.map_eq_cons_iff.mp hText with
        ⟨byte, rest, hBytes, hByte, rfl⟩
      rw [charOf_eq_plus] at hByte
      subst hByte
      rw [hMap] at hDigits
      exact ⟨.inr ⟨rest, hBytes, hDigits.1⟩, hDigits.2⟩
  · rintro ⟨hDeclares | ⟨digits, hBytes, hDeclares⟩, hBound⟩
    · exact ⟨_, .inl rfl,
        (hMap value.bytes).mpr ⟨hDeclares, hBound⟩⟩
    · have hPlus : charOf 0x2B = '+' := by decide
      refine ⟨digits.map charOf, .inr ?_,
        (hMap digits).mpr ⟨hDeclares, hBound⟩⟩
      rw [hBytes, List.map_cons, hPlus]

/- Digits and a plus sign are visible characters. -/
theorem DeclaresSigned.visible
    {value : HeaderValue} {n : Nat}
    (hSigned : DeclaresSigned value n) :
    value.bytes.all isVisibleAscii = true := by
  have hDigit : ∀ byte, isDigitByte byte = true →
      isVisibleAscii byte = true :=
    forall_byte (by decide +kernel)
  have hDigits (digits : List UInt8)
      (hAll : digits.all isDigitByte = true) :
      digits.all isVisibleAscii = true :=
    List.all_eq_true.mpr fun byte hByte =>
      hDigit byte (List.all_eq_true.mp hAll byte hByte)
  rcases hSigned with hDeclares | ⟨digits, hBytes, hDeclares⟩
  · exact hDigits _ hDeclares.2.1
  · rw [hBytes, List.all_cons, hDigits digits hDeclares.2.1]
    decide

end Http

------------------------------------------------------------
-- Reading A Limited Body
------------------------------------------------------------

namespace Http

/- The chunks that pass, and whether all of them did. -/
abbrev LimitReader : Type :=
  Limited → Chunks × Bool

/-
  Chunks pass until their total exceeds the limit.  The
  chunk that exceeds it is an error instead.
-/
structure CutsAtLimit (read : LimitReader) : Prop where
  whole : ∀ (body : Chunks) (limit : Nat),
    body.flatten.length ≤ limit →
      read ⟨body, limit⟩ = (body, true)
  cut : ∀ (first rest : Chunks) (chunk : List UInt8)
      (limit : Nat),
    first.flatten.length ≤ limit →
      limit < (first ++ [chunk]).flatten.length →
        read ⟨first ++ chunk :: rest, limit⟩ =
          (first, false)

/- A body above a limit has a first chunk that exceeds it. -/
theorem exists_exceeding_chunk
    (body : Chunks)
    (limit : Nat)
    (hLong : limit < body.flatten.length) :
    ∃ first chunk rest,
      body = first ++ chunk :: rest ∧
        first.flatten.length ≤ limit ∧
          limit < (first ++ [chunk]).flatten.length := by
  induction body generalizing limit with
  | nil => simp at hLong
  | cons chunk rest ih =>
      by_cases hFits : chunk.length ≤ limit
      · have hRest :
            limit - chunk.length < rest.flatten.length := by
          simp only [List.flatten_cons,
            List.length_append] at hLong
          omega
        rcases ih _ hRest with
          ⟨first, next, later, rfl, hFirst, hNext⟩
        refine ⟨chunk :: first, next, later, rfl, ?_, ?_⟩
        · simp only [List.flatten_cons, List.length_append]
          omega
        · simp only [List.cons_append, List.flatten_cons,
            List.length_append] at hNext ⊢
          omega
      · refine ⟨[], chunk, rest, rfl, Nat.zero_le _, ?_⟩
        simpa using hFits

namespace CutsAtLimit

variable {read : LimitReader}

/- A body passes as a whole exactly within the limit. -/
theorem whole_iff
    (hCuts : CutsAtLimit read)
    (limited : Limited) :
    read limited = (limited.body, true) ↔
      limited.body.flatten.length ≤ limited.limit := by
  rcases limited with ⟨body, limit⟩
  constructor
  · intro hWhole
    by_contra hLong
    rcases exists_exceeding_chunk body limit
        (Nat.lt_of_not_le hLong) with
      ⟨first, chunk, rest, rfl, hFirst, hNext⟩
    rw [hCuts.cut first rest chunk limit hFirst hNext]
      at hWhole
    exact Bool.false_ne_true (congrArg Prod.snd hWhole)
  · exact hCuts.whole body limit

/- A body above the limit ends in an error. -/
theorem not_complete
    (hCuts : CutsAtLimit read)
    (limited : Limited)
    (hLong :
      limited.limit < limited.body.flatten.length) :
    (read limited).2 = false := by
  rcases limited with ⟨body, limit⟩
  rcases exists_exceeding_chunk body limit hLong with
    ⟨first, chunk, rest, rfl, hFirst, hNext⟩
  rw [hCuts.cut first rest chunk limit hFirst hNext]

/- Never more than the limit passes. -/
theorem length_le
    (hCuts : CutsAtLimit read)
    (limited : Limited) :
    (read limited).1.flatten.length ≤ limited.limit := by
  rcases limited with ⟨body, limit⟩
  by_cases hFits : body.flatten.length ≤ limit
  · rw [hCuts.whole body limit hFits]
    exact hFits
  · rcases exists_exceeding_chunk body limit
        (Nat.lt_of_not_le hFits) with
      ⟨first, chunk, rest, rfl, hFirst, hNext⟩
    rw [hCuts.cut first rest chunk limit hFirst hNext]
    exact hFirst

end CutsAtLimit

/- A reader that counts down what may still pass. -/
def passChunks : Nat → Chunks → Chunks × Bool
| _, [] => ([], true)
| remaining, chunk :: rest =>
    if chunk.length ≤ remaining then
      let later := passChunks (remaining - chunk.length) rest
      (chunk :: later.1, later.2)
    else
      ([], false)

def readLimited : LimitReader :=
  fun limited => passChunks limited.limit limited.body

theorem passChunks_append
    (first rest : Chunks)
    (remaining : Nat)
    (hFirst : first.flatten.length ≤ remaining) :
    passChunks remaining (first ++ rest) =
      let later :=
        passChunks (remaining - first.flatten.length) rest
      (first ++ later.1, later.2) := by
  induction first generalizing remaining with
  | nil => simp
  | cons chunk first ih =>
      simp only [List.flatten_cons,
        List.length_append] at hFirst
      have hChunk : chunk.length ≤ remaining := by omega
      have hLater := ih (remaining - chunk.length) (by omega)
      rw [List.cons_append, passChunks, if_pos hChunk, hLater]
      simp [Nat.sub_sub]

theorem readLimited_cutsAtLimit : CutsAtLimit readLimited where
  whole := by
    intro body limit hFits
    have hAll := passChunks_append body [] limit hFits
    rw [List.append_nil] at hAll
    rw [readLimited, hAll]
    simp [passChunks]
  cut := by
    intro first rest chunk limit hFirst hNext
    have hExceeds :
        ¬chunk.length ≤ limit - first.flatten.length := by
      simp only [List.flatten_append, List.length_append,
        List.flatten_cons, List.flatten_nil,
        List.append_nil] at hNext
      omega
    rw [readLimited, passChunks_append first _ limit hFirst,
      passChunks, if_neg hExceeds]
    simp

end Http
