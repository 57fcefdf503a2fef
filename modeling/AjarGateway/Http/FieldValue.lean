import AjarGateway.Http.Message

/-
  Field values read from their bytes: the media type of a
  Content-Type value and the names that a field lists.

  A value that only holds visible ASCII characters has the
  media type that the functions on its text compute.

  Key definitions include:
    * `Http.mediaType`
    * `Http.listedNames`

  Key theorems include:
    * `Http.eqIgnoreAsciiCase_mediaType`
-/

------------------------------------------------------------
-- Media Types And Lists
------------------------------------------------------------

namespace Http

/- The optional whitespace of header fields. -/
def isOptionalSpace (byte : UInt8) : Bool :=
  byte == 0x20 || byte == 0x09

/- An ASCII letter in lower case. -/
def lowercaseByte (byte : UInt8) : UInt8 :=
  if 0x41 ≤ byte ∧ byte ≤ 0x5A then byte + 0x20 else byte

def trimSpace (bytes : List UInt8) : List UInt8 :=
  ((bytes.dropWhile isOptionalSpace).reverse.dropWhile
    isOptionalSpace).reverse

/- What precedes the parameters, in lower case. -/
def mediaType (value : HeaderValue) : List UInt8 :=
  (trimSpace (value.bytes.takeWhile (· != 0x3B))).map
    lowercaseByte

/- The elements of a comma-separated list of names. -/
def listedNames (value : HeaderValue) : List (List UInt8) :=
  (value.bytes.splitOn 0x2C).map fun name =>
    (trimSpace name).map lowercaseByte

example :
    mediaType (.fromStatic " Text/HTML ; charset=utf-8") =
      Rust.utf8 "text/html" := by
  decide

end Http

------------------------------------------------------------
-- Bytes And Characters
------------------------------------------------------------

namespace Http

/- The character of a byte. -/
def charOf (byte : UInt8) : Char :=
  Char.ofNat byte.toNat

theorem asciiText_toList (bytes : List UInt8) :
    (asciiText bytes).toList = bytes.map charOf := by
  rw [asciiText, String.toList_ofList]
  rfl

/- What holds of each of the 256 bytes holds of a byte. -/
theorem forall_byte
    {p : UInt8 → Prop}
    (hBytes : ∀ n < 256, p (UInt8.ofNat n)) :
    ∀ byte, p byte := by
  intro byte
  rw [← UInt8.ofNat_toNat (x := byte)]
  exact hBytes byte.toNat byte.toNat_lt

theorem charOf_injective : Function.Injective charOf := by
  have hBack : ∀ byte : UInt8,
      UInt8.ofNat (charOf byte).toNat = byte :=
    forall_byte (by decide +kernel)
  intro first second hEq
  rw [← hBack first, ← hBack second, hEq]

theorem charOf_toNat :
    ∀ byte, (charOf byte).toNat = byte.toNat :=
  forall_byte (by decide +kernel)

/- A text of visible ASCII bytes is read as it was written. -/
theorem asciiText_of_visible
    {text : String}
    (hVisible : (Rust.utf8 text).all isVisibleAscii = true) :
    asciiText (Rust.utf8 text) = text ∧
      ∀ c ∈ text.toList, c.toNat < 128 := by
  have hByte : ∀ byte, isVisibleAscii byte = true →
      byte.toNat < 128 :=
    forall_byte (by decide +kernel)
  have hAscii : ∀ c ∈ (Rust.utf8 text).map charOf,
      c.toNat < 128 := by
    intro c hMem
    rcases List.mem_map.mp hMem with ⟨byte, hIn, rfl⟩
    rw [charOf_toNat]
    exact hByte byte (List.all_eq_true.mp hVisible byte hIn)
  have hText : asciiText (Rust.utf8 text) = text := by
    apply Rust.utf8_injective
    have hSame : ∀ byte ∈ Rust.utf8 text,
        ((fun c : Char => UInt8.ofNat c.toNat) ∘ charOf)
            byte =
          id byte := by
      intro byte _
      simp [charOf_toNat]
    rw [asciiText]
    show Rust.utf8
        (String.ofList ((Rust.utf8 text).map charOf)) =
      Rust.utf8 text
    rw [Rust.utf8_ofList_ascii _ hAscii, List.map_map,
      List.map_congr_left hSame, List.map_id]
  refine ⟨hText, ?_⟩
  rw [← hText, asciiText_toList]
  exact hAscii

/- The tests on bytes agree with those on characters. -/
theorem charOf_visible :
    ∀ byte, isVisibleAscii byte = true →
      (charOf byte != ';') = (byte != 0x3B) ∧
        Rust.isWhitespace (charOf byte) =
            isOptionalSpace byte ∧
          Rust.asciiLowercase (charOf byte) =
            charOf (lowercaseByte byte) :=
  forall_byte (by decide +kernel)

variable {α β : Type} {f : α → β}
variable {p : β → Bool} {q : α → Bool}

theorem takeWhile_map_eq
    {items : List α}
    (hAgree : ∀ item ∈ items, p (f item) = q item) :
    (items.map f).takeWhile p = (items.takeWhile q).map f := by
  rw [List.takeWhile_map]
  congr 1
  induction items with
  | nil => rfl
  | cons item items ih =>
      rw [List.forall_mem_cons] at hAgree
      simp only [List.takeWhile_cons, Function.comp_apply,
        hAgree.1]
      rw [ih hAgree.2]

theorem dropWhile_map_eq
    {items : List α}
    (hAgree : ∀ item ∈ items, p (f item) = q item) :
    (items.map f).dropWhile p = (items.dropWhile q).map f := by
  rw [List.dropWhile_map]
  congr 1
  induction items with
  | nil => rfl
  | cons item items ih =>
      rw [List.forall_mem_cons] at hAgree
      simp only [List.dropWhile_cons, Function.comp_apply,
        hAgree.1]
      rw [ih hAgree.2]

/- The first part of a split is what precedes the split. -/
theorem headD_splitOn
    (text : List Char)
    (c : Char) :
    (text.splitOn c).headD [] = text.takeWhile (· != c) := by
  induction text with
  | nil => rfl
  | cons d text ih =>
      rw [List.splitOn_cons_eq_if_modifyHead]
      by_cases hEq : d = c
      · simp [hEq]
      · have hParts := List.splitOn_ne_nil c text
        cases hSplit : text.splitOn c with
        | nil => exact absurd hSplit hParts
        | cons part parts =>
            rw [hSplit] at ih
            simpa [hEq] using ih

theorem trim_map_charOf
    {bytes : List UInt8}
    (hVisible : ∀ byte ∈ bytes, isVisibleAscii byte = true) :
    Rust.trim (bytes.map charOf) =
      (trimSpace bytes).map charOf := by
  have hAgree : ∀ byte ∈ bytes,
      Rust.isWhitespace (charOf byte) =
        isOptionalSpace byte :=
    fun byte hByte =>
      (charOf_visible byte (hVisible byte hByte)).2.1
  have hFront := dropWhile_map_eq hAgree
  have hRest : ∀ byte ∈
        (bytes.dropWhile isOptionalSpace).reverse,
      Rust.isWhitespace (charOf byte) =
        isOptionalSpace byte :=
    fun byte hByte =>
      hAgree byte
        ((List.dropWhile_suffix _).subset
          (List.mem_reverse.mp hByte))
  have hBack := dropWhile_map_eq hRest
  rw [Rust.trim, Rust.trimMatches, hFront,
    ← List.map_reverse, hBack, ← List.map_reverse, trimSpace]

/-
  On a visible ASCII value, comparing the text before the
  first semicolon compares the media type.
-/
theorem eqIgnoreAsciiCase_mediaType
    (value : HeaderValue)
    (expected : List Char)
    (hVisible : value.bytes.all isVisibleAscii = true)
    (hExpected :
      expected.all (fun c =>
        c.toNat < 128 && Rust.asciiLowercase c == c) =
          true) :
    Rust.eqIgnoreAsciiCase
        (Rust.trim
          (((asciiText value.bytes).toList.splitOn
            ';').headD []))
        expected =
      (mediaType value ==
        expected.map fun c => UInt8.ofNat c.toNat) := by
  rw [List.all_eq_true] at hVisible hExpected
  have hParts : ∀ c ∈ expected,
      c.toNat < 128 ∧ Rust.asciiLowercase c = c := by
    intro c hc
    simpa using hExpected c hc
  have hBefore : ∀ byte ∈ value.bytes.takeWhile (· != 0x3B),
      isVisibleAscii byte = true :=
    fun byte hByte =>
      hVisible byte ((List.takeWhile_prefix _).subset hByte)
  have hTrimmed : ∀ byte ∈
        trimSpace (value.bytes.takeWhile (· != 0x3B)),
      isVisibleAscii byte = true := by
    intro byte hByte
    apply hBefore byte
    have hBack := (List.dropWhile_suffix _).subset
      (List.mem_reverse.mp hByte)
    exact (List.dropWhile_suffix _).subset
      (List.mem_reverse.mp hBack)
  have hText :
      Rust.toAsciiLowercase
          (Rust.trim
            (((asciiText value.bytes).toList.splitOn
              ';').headD [])) =
        (mediaType value).map charOf := by
    have hFirst :
        (value.bytes.map charOf).takeWhile (· != ';') =
          (value.bytes.takeWhile (· != 0x3B)).map charOf :=
      takeWhile_map_eq fun byte hByte =>
        (charOf_visible byte (hVisible byte hByte)).1
    rw [asciiText_toList, headD_splitOn, hFirst,
      trim_map_charOf hBefore, Rust.toAsciiLowercase,
      mediaType, List.map_map, List.map_map]
    refine List.map_congr_left fun byte hByte => ?_
    exact (charOf_visible byte (hTrimmed byte hByte)).2.2
  have hBack :
      (expected.map fun c => UInt8.ofNat c.toNat).map
          charOf =
        expected := by
    rw [List.map_map, List.map_congr_left, List.map_id]
    intro c hc
    have hSmall := (hParts c hc).1
    simp [charOf, Nat.mod_eq_of_lt
      (Nat.lt_trans hSmall (by decide : 128 < 256))]
  rw [Rust.eqIgnoreAsciiCase, hText,
    Rust.toAsciiLowercase_of_lower expected
      fun c hc => (hParts c hc).2,
    Bool.eq_iff_iff, beq_iff_eq, beq_iff_eq]
  constructor
  · intro hEq
    rw [← hBack] at hEq
    exact List.map_injective_iff.mpr charOf_injective hEq
  · intro hEq
    rw [hEq, hBack]

end Http
