import AjarGateway.Http.Message
import Mathlib.Data.List.TakeWhile

/-
  A concrete implementation of the parsers of the `http`
  crate, for the scheme `http`, with the documented
  behaviour that the gateway relies on.

  Key definitions include:
    * `Http.referenceHttp`

  Key theorems include:
    * `Http.reference_readsVisibleAscii`
    * `Http.reference_writesVisibleAscii`
    * `Http.reference_refusesControls`
    * `Http.reference_takesAuthority`
-/

------------------------------------------------------------
-- Headers
------------------------------------------------------------

namespace Http

/- The bytes of a legal header value. -/
def isLegalValueByte (byte : UInt8) : Bool :=
  (32 ≤ byte && byte != 127) || byte == 9

/- The characters of a header name. -/
def isTokenChar (c : Char) : Bool :=
  c.isAlphanum || "!#$%&'*+-.^_|~".toList.contains c ||
    c.toNat == 96

def referenceValueFromStr
    (text : String) : Option HeaderValue :=
  if (Rust.utf8 text).all isLegalValueByte then
    some ⟨Rust.utf8 text⟩
  else
    none

def referenceValueToStr
    (value : HeaderValue) : Option String :=
  if value.bytes.all isVisibleAscii then
    some (asciiText value.bytes)
  else
    none

def referenceNameFromStr
    (text : String) : Option HeaderName :=
  if text.toList.isEmpty || !text.toList.all isTokenChar then
    none
  else
    some ⟨String.ofList (Rust.toAsciiLowercase text.toList)⟩

end Http

------------------------------------------------------------
-- URIs
------------------------------------------------------------

namespace Http

/- The path and query in a text that follows an authority. -/
def PathAndQuery.ofRest
    (rest : List Char)
    (hRest : ∀ c ∈ rest.head?, endsAuthority c = true) :
    PathAndQuery where
  text := targetText rest
  starts := by
    cases rest with
    | nil => exact .inl rfl
    | cons c rest =>
        have hFirst := hRest c rfl
        simp only [endsAuthority, Bool.or_eq_true,
          beq_iff_eq] at hFirst
        rcases hFirst with (rfl | rfl) | rfl
        · left
          simp [targetText]
        · right
          simp [targetText]
        · left
          simp [targetText]
  noFragment := by
    rw [targetText]
    split
    · decide
    · rw [String.toList_ofList]
      intro hFragment
      simpa using List.mem_takeWhile_imp hFragment

theorem head_dropWhile_endsAuthority
    (rest : List Char) :
    ∀ c ∈ (rest.dropWhile (!endsAuthority ·)).head?,
      endsAuthority c = true := by
  intro c hHead
  have hStop := List.head?_dropWhile_not
    (!endsAuthority ·) rest
  rw [Option.mem_def] at hHead
  rw [hHead] at hStop
  simpa using hStop

/- A URI with the scheme `http`. -/
def referenceAbsolute (rest : List Char) : Option Uri :=
  let authority := rest.takeWhile (!endsAuthority ·)
  if authority.isEmpty then
    none
  else
    some (.absolute "http" (String.ofList authority)
      (.ofRest (rest.dropWhile (!endsAuthority ·))
        (head_dropWhile_endsAuthority rest)))

/- A URI in any of the four forms. -/
def referenceUriFromStr (text : String) : Option Uri :=
  match text.toList with
  | [] => none
  | ['*'] => some .asterisk
  | '/' :: rest =>
      some (.origin (.ofRest ('/' :: rest) (by
        intro c hHead
        cases hHead
        rfl)))
  | c :: rest =>
      match Rust.stripPrefix "http://".toList (c :: rest) with
      | some afterScheme => referenceAbsolute afterScheme
      | none =>
          if (c :: rest).any endsAuthority then none
          else some (.authority text)

def referenceHttp : HttpCrate where
  headerValueFromStr := referenceValueFromStr
  headerValueToStr := referenceValueToStr
  headerNameFromStr := referenceNameFromStr
  uriFromStr := referenceUriFromStr

end Http

------------------------------------------------------------
-- The Documented Behaviour
------------------------------------------------------------

namespace Http

theorem reference_readsVisibleAscii :
    referenceHttp.ReadsVisibleAscii :=
  fun _ => rfl

theorem isLegalValueByte_of_isVisibleAscii
    (byte : UInt8)
    (hVisible : isVisibleAscii byte = true) :
    isLegalValueByte byte = true := by
  simp only [isVisibleAscii, isLegalValueByte,
    Bool.or_eq_true, Bool.and_eq_true, decide_eq_true_eq,
    bne_iff_ne, ne_eq] at hVisible ⊢
  rcases hVisible with ⟨hLow, hHigh⟩ | hTab
  · left
    refine ⟨hLow, ?_⟩
    rintro rfl
    exact absurd hHigh (by decide)
  · exact .inr hTab

theorem reference_writesVisibleAscii :
    referenceHttp.WritesVisibleAscii where
  keeps := by
    intro text value hValue
    simp only [referenceHttp, referenceValueFromStr]
      at hValue
    split at hValue
    · cases hValue
      rfl
    · cases hValue
  accepts := by
    intro text hVisible
    refine ⟨⟨Rust.utf8 text⟩, ?_⟩
    simp only [referenceHttp, referenceValueFromStr]
    rw [if_pos]
    rw [List.all_eq_true] at hVisible ⊢
    intro byte hByte
    exact isLegalValueByte_of_isVisibleAscii byte
      (hVisible byte hByte)

/- A control character is a byte that is not legal. -/
theorem reference_refusesControls :
    referenceHttp.RefusesControls := by
  intro text hControl
  rcases List.any_eq_true.mp hControl with ⟨c, hMem, hChar⟩
  have hSmall : c.toNat < 128 := by
    simp only [HttpCrate.isControlChar, Bool.or_eq_true,
      Bool.and_eq_true, decide_eq_true_eq, beq_iff_eq]
      at hChar
    omega
  have hByte : UInt8.ofNat c.toNat ∈ Rust.utf8 text := by
    unfold Rust.utf8
    refine List.mem_flatMap.mpr ⟨c, hMem, ?_⟩
    rw [Rust.utf8EncodeChar_ascii hSmall]
    exact List.mem_singleton_self _
  have hIllegal :
      isLegalValueByte (UInt8.ofNat c.toNat) = false := by
    have hBytes : ∀ n < 128,
        HttpCrate.isControlChar (Char.ofNat n) = true →
          isLegalValueByte (UInt8.ofNat n) = false := by
      decide
    apply hBytes c.toNat hSmall
    rwa [Char.ofNat_toNat]
  simp only [referenceHttp, referenceValueFromStr]
  rw [if_neg]
  intro hLegal
  have hAccepted := List.all_eq_true.mp hLegal _ hByte
  rw [hIllegal] at hAccepted
  cases hAccepted

/- Only a text that starts with `http://` is absolute. -/
theorem referenceUriFromStr_absolute
    {text scheme authority : String}
    {target : PathAndQuery}
    (hUri :
      referenceUriFromStr text =
        some (.absolute scheme authority target)) :
    ∃ rest,
      text.toList = "http://".toList ++ rest ∧
        referenceAbsolute rest =
          some (.absolute scheme authority target) := by
  rw [referenceUriFromStr] at hUri
  split at hUri
  · cases hUri
  · cases hUri
  · cases hUri
  · rename_i c rest _ _ hText
    split at hUri
    · rename_i afterScheme hStrip
      refine ⟨afterScheme, ?_, hUri⟩
      rw [Rust.stripPrefix] at hStrip
      split at hStrip
      · rename_i hPattern
        cases hStrip
        rw [hText]
        rcases List.isPrefixOf_iff_prefix.mp hPattern with
          ⟨after, hAfter⟩
        rw [← hAfter]
        simp
      · cases hStrip
    · split at hUri
      · cases hUri
      · cases hUri

theorem referenceUriFromStr_http
    {text : String}
    {rest : List Char}
    (hText : text.toList = "http://".toList ++ rest) :
    referenceUriFromStr text = referenceAbsolute rest := by
  rw [referenceUriFromStr, hText]
  rfl

/- A text with some authority is accepted. -/
theorem referenceAbsolute_cons
    {c : Char}
    (rest : List Char)
    (hPlain : endsAuthority c = false) :
    ∃ uri, referenceAbsolute (c :: rest) = some uri := by
  rw [referenceAbsolute, List.takeWhile_cons_of_pos
    (by simp [hPlain])]
  exact ⟨_, rfl⟩

theorem reference_takesAuthority :
    referenceHttp.TakesAuthority where
  parts := by
    intro text scheme authority target hUri
    rcases referenceUriFromStr_absolute hUri with
      ⟨rest, hText, hAbsolute⟩
    rw [referenceAbsolute] at hAbsolute
    split at hAbsolute
    · cases hAbsolute
    · cases hAbsolute
      exact ⟨"http".toList, rest, by decide, hText, rfl,
        rfl⟩
  scheme := by
    intro text rest uri hText hUri
    have hAbsolute : referenceAbsolute rest = some uri := by
      rw [← referenceUriFromStr_http hText]
      exact hUri
    rw [referenceAbsolute] at hAbsolute
    split at hAbsolute
    · cases hAbsolute
    · cases hAbsolute
      exact ⟨_, _, rfl⟩

end Http
