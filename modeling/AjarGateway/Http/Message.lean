import AjarGateway.Rust.Std

/-
  HTTP messages as the gateway reads and writes them.

  `HeaderMap` is the multi-map of the `http` crate.  The
  functions of that crate which parse text are not part of
  the repository; they are the fields of `HttpCrate`, a
  parameter of the model, and what the crate documents about
  them is stated as propositions over that parameter.

  Key definitions include:
    * `Http.HeaderMap`
    * `Http.Uri`
    * `Http.HttpCrate`

  Key theorems include:
    * `Http.HeaderMap.getAll_insert`
    * `Http.HeaderMap.getAll_append`
    * `Http.HeaderMap.getAll_remove`
-/

------------------------------------------------------------
-- Header Names And Values
------------------------------------------------------------

namespace Http

/- A header name, kept in lower case. -/
structure HeaderName where
  text : String
  deriving DecidableEq, Repr

namespace HeaderName

def accept : HeaderName := ⟨"accept"⟩
def cacheControl : HeaderName := ⟨"cache-control"⟩
def connection : HeaderName := ⟨"connection"⟩
def contentLength : HeaderName := ⟨"content-length"⟩
def contentType : HeaderName := ⟨"content-type"⟩
def etag : HeaderName := ⟨"etag"⟩
def ifNoneMatch : HeaderName := ⟨"if-none-match"⟩
def link : HeaderName := ⟨"link"⟩
def vary : HeaderName := ⟨"vary"⟩

end HeaderName

/- A header value: opaque bytes. -/
structure HeaderValue where
  bytes : List UInt8
  deriving DecidableEq, Repr

/- `HeaderValue::from_static`. -/
def HeaderValue.fromStatic (text : String) : HeaderValue :=
  ⟨Rust.utf8 text⟩

/- The bytes `HeaderValue::to_str` lets through. -/
def isVisibleAscii (byte : UInt8) : Bool :=
  (32 ≤ byte && byte < 127) || byte == 9

/- The text of a byte string without bytes from 128 on. -/
def asciiText (bytes : List UInt8) : String :=
  String.ofList (bytes.map (fun b => Char.ofNat b.toNat))

/- An ASCII text is read back from its bytes. -/
theorem asciiText_utf8
    (text : String)
    (hAscii : ∀ c ∈ text.toList, c.toNat < 128) :
    asciiText (Rust.utf8 text) = text := by
  have hBytes := Rust.utf8_ofList_ascii text.toList hAscii
  rw [String.ofList_toList] at hBytes
  rw [asciiText, hBytes, List.map_map]
  have hChars :
      text.toList.map
          ((fun b : UInt8 => Char.ofNat b.toNat) ∘
            fun c => UInt8.ofNat c.toNat) =
        text.toList := by
    rw [List.map_congr_left, List.map_id]
    intro c hc
    have hSmall := hAscii c hc
    simp [Nat.mod_eq_of_lt (Nat.lt_trans hSmall
      (by decide : 128 < 256))]
  rw [hChars, String.ofList_toList]

/- The characters of a visible ASCII text. -/
def isVisibleChar (c : Char) : Bool :=
  32 ≤ c.toNat && c.toNat < 127

theorem isVisibleChar_ascii
    {text : String}
    (hVisible : ∀ c ∈ text.toList, isVisibleChar c = true) :
    ∀ c ∈ text.toList, c.toNat < 128 := by
  intro c hc
  have hChar := hVisible c hc
  simp only [isVisibleChar, Bool.and_eq_true,
    decide_eq_true_eq] at hChar
  omega

/- They are written as visible ASCII bytes. -/
theorem utf8_visible
    (text : String)
    (hVisible : ∀ c ∈ text.toList, isVisibleChar c = true) :
    (Rust.utf8 text).all isVisibleAscii = true := by
  have hBytes :=
    Rust.utf8_ofList_ascii text.toList
      (isVisibleChar_ascii hVisible)
  rw [String.ofList_toList] at hBytes
  rw [hBytes, List.all_eq_true]
  intro byte hByte
  rcases List.mem_map.mp hByte with ⟨c, hc, rfl⟩
  have hChar := hVisible c hc
  simp only [isVisibleChar, Bool.and_eq_true,
    decide_eq_true_eq] at hChar
  have hNat : (UInt8.ofNat c.toNat).toNat = c.toNat := by
    simp only [UInt8.toNat_ofNat']
    omega
  have hLow : (32 : UInt8) ≤ UInt8.ofNat c.toNat := by
    rw [UInt8.le_iff_toNat_le, hNat]
    exact hChar.1
  have hHigh : UInt8.ofNat c.toNat < (127 : UInt8) := by
    rw [UInt8.lt_iff_toNat_lt, hNat]
    exact hChar.2
  simp [isVisibleAscii, hLow, hHigh]

end Http

------------------------------------------------------------
-- Header Maps
------------------------------------------------------------

namespace Http

/-
  A header map.  Values of one name keep their order; the
  order between different names carries no meaning.
-/
structure HeaderMap where
  entries : List (HeaderName × HeaderValue)
  deriving DecidableEq, Repr

namespace HeaderMap

/- `HeaderMap::new`. -/
def empty : HeaderMap :=
  ⟨[]⟩

/- `HeaderMap::get_all`. -/
def getAll
    (headers : HeaderMap)
    (name : HeaderName) : List HeaderValue :=
  (headers.entries.filter (fun entry => entry.1 = name)).map
    Prod.snd

/- `HeaderMap::get`: the first value of a name. -/
def get
    (headers : HeaderMap)
    (name : HeaderName) : Option HeaderValue :=
  (headers.getAll name).head?

/- `HeaderMap::keys`: every name once. -/
def keys (headers : HeaderMap) : List HeaderName :=
  (headers.entries.map Prod.fst).eraseDups

/- `HeaderMap::remove`: drop every value of a name. -/
def remove
    (headers : HeaderMap)
    (name : HeaderName) : HeaderMap :=
  ⟨headers.entries.filter (fun entry => entry.1 ≠ name)⟩

/- `HeaderMap::append`: add a value after the others. -/
def append
    (headers : HeaderMap)
    (name : HeaderName)
    (value : HeaderValue) : HeaderMap :=
  ⟨headers.entries ++ [(name, value)]⟩

/- `HeaderMap::insert`: the value replaces all others. -/
def insert
    (headers : HeaderMap)
    (name : HeaderName)
    (value : HeaderValue) : HeaderMap :=
  (headers.remove name).append name value

@[simp] theorem getAll_empty (name : HeaderName) :
    empty.getAll name = [] :=
  rfl

theorem getAll_append
    (headers : HeaderMap)
    (name other : HeaderName)
    (value : HeaderValue) :
    (headers.append name value).getAll other =
      headers.getAll other ++
        if name = other then [value] else [] := by
  by_cases hEq : name = other <;>
    simp [append, getAll, hEq]

theorem getAll_remove
    (headers : HeaderMap)
    (name other : HeaderName) :
    (headers.remove name).getAll other =
      if name = other then [] else headers.getAll other := by
  by_cases hEq : name = other
  · subst hEq
    simp [remove, getAll, List.filter_filter]
  · have hKeep :
        (fun entry : HeaderName × HeaderValue =>
            decide (entry.1 = other) &&
              decide (entry.1 ≠ name)) =
          fun entry => decide (entry.1 = other) := by
      funext entry
      by_cases hOther : entry.1 = other
      · simp [hOther, Ne.symm hEq]
      · simp [hOther]
    simp only [remove, getAll, List.filter_filter, hKeep,
      if_neg hEq]

theorem getAll_insert
    (headers : HeaderMap)
    (name other : HeaderName)
    (value : HeaderValue) :
    (headers.insert name value).getAll other =
      if name = other then [value]
      else headers.getAll other := by
  rw [insert, getAll_append, getAll_remove]
  by_cases hEq : name = other <;> simp [hEq]

/- A header map with one value. -/
def single
    (name : HeaderName)
    (value : HeaderValue) : HeaderMap :=
  empty.append name value

theorem getAll_single
    (name other : HeaderName)
    (value : HeaderValue) :
    (single name value).getAll other =
      if name = other then [value] else [] := by
  rw [single, getAll_append]
  rfl

end HeaderMap

end Http

------------------------------------------------------------
-- Request Targets
------------------------------------------------------------

namespace Http

/-
  A path and query.  A parsed one starts with a slash or,
  after an authority, with the question mark of its query;
  a fragment has been dropped.
-/
structure PathAndQuery where
  text : String
  starts :
    text.toList.head? = some '/' ∨
      text.toList.head? = some '?'
  noFragment : '#' ∉ text.toList

namespace PathAndQuery

/- `PathAndQuery::path`: the part before the query. -/
def path (target : PathAndQuery) : String :=
  let before := target.text.toList.takeWhile (· ≠ '?')
  if before.isEmpty then "/" else String.ofList before

end PathAndQuery

/- The four forms of a request target. -/
inductive Uri where
  | origin (target : PathAndQuery)
  | absolute
      (scheme authority : String)
      (target : PathAndQuery)
  | authority (authority : String)
  | asterisk

namespace Uri

/- `Uri::scheme_str`. -/
def schemeStr : Uri → Option String
| .absolute scheme _ _ => some scheme
| _ => none

/- `Uri::authority`. -/
def authority? : Uri → Option String
| .absolute _ host _ => some host
| .authority host => some host
| _ => none

/- `Uri::path_and_query`, as text. -/
def pathAndQuery : Uri → Option String
| .origin target => some target.text
| .absolute _ _ target => some target.text
| .authority _ => none
| .asterisk => some "*"

/- `Uri::path`. -/
def path : Uri → String
| .origin target => target.path
| .absolute _ _ target => target.path
| .authority _ => ""
| .asterisk => "*"

end Uri

end Http

------------------------------------------------------------
-- Requests And Responses
------------------------------------------------------------

namespace Http

/- `http::Method`. -/
inductive Method where
  | get
  | head
  | post
  | put
  | delete
  | connect
  | options
  | trace
  | patch
  | extension (name : String)
  deriving DecidableEq, Repr

/- A request. -/
structure Request (Body : Type) where
  method : Method
  uri : Uri
  headers : HeaderMap
  body : Body

/- A message body, as the chunks in which it arrives. -/
abbrev Chunks : Type :=
  List (List UInt8)

/- `http_body_util::Limited`: a body cut off at a limit. -/
structure Limited where
  body : Chunks
  limit : Nat
  deriving DecidableEq, Repr

/- A response. -/
structure Response (Body : Type) where
  status : Nat
  headers : HeaderMap
  body : Body

/- `Response::new`: status 200 and no headers. -/
def Response.new {Body : Type} (body : Body) :
    Response Body where
  status := 200
  headers := .empty
  body := body

end Http

------------------------------------------------------------
-- The Parsers Of The `http` Crate
------------------------------------------------------------

namespace Http

/- The functions of the `http` crate that parse text. -/
structure HttpCrate where
  headerValueFromStr : String → Option HeaderValue
  headerValueToStr : HeaderValue → Option String
  headerNameFromStr : String → Option HeaderName
  uriFromStr : String → Option Uri

/- The characters that end the authority of a URI. -/
def endsAuthority (c : Char) : Bool :=
  c == '/' || c == '?' || c == '#'

/- What a URI keeps of the text after its authority. -/
def targetText (rest : List Char) : String :=
  let kept := rest.takeWhile (· ≠ '#')
  if kept.isEmpty then "/" else String.ofList kept

namespace HttpCrate

/-
  `HeaderValue::to_str` yields the text of a value exactly
  when the value only holds visible ASCII characters.
-/
def ReadsVisibleAscii (http : HttpCrate) : Prop :=
  ∀ value : HeaderValue,
    http.headerValueToStr value =
      if value.bytes.all isVisibleAscii then
        some (asciiText value.bytes)
      else
        none

/-
  `HeaderValue::from_str` keeps the bytes of a text and
  accepts every text of visible ASCII characters.
-/
structure WritesVisibleAscii (http : HttpCrate) : Prop where
  keeps : ∀ text value,
    http.headerValueFromStr text = some value →
      value.bytes = Rust.utf8 text
  accepts : ∀ text : String,
    (Rust.utf8 text).all isVisibleAscii = true →
      ∃ value, http.headerValueFromStr text = some value

/- The control characters that no header value holds. -/
def isControlChar (c : Char) : Bool :=
  (c.toNat < 32 && c != '\t') || c.toNat == 127

/- `HeaderValue::from_str` refuses control characters. -/
def RefusesControls (http : HttpCrate) : Prop :=
  ∀ text : String, text.toList.any isControlChar = true →
    http.headerValueFromStr text = none

/- A visible ASCII text is read as it was written. -/
theorem ReadsVisibleAscii.text
    {http : HttpCrate}
    (hReads : http.ReadsVisibleAscii)
    (text : String)
    (hVisible : ∀ c ∈ text.toList, isVisibleChar c = true) :
    http.headerValueToStr (.fromStatic text) = some text := by
  rw [hReads, HeaderValue.fromStatic,
    if_pos (utf8_visible text hVisible),
    asciiText_utf8 text (isVisibleChar_ascii hVisible)]

/- A visible ASCII text is a legal header value. -/
theorem WritesVisibleAscii.text
    {http : HttpCrate}
    (hWrites : http.WritesVisibleAscii)
    (text : String)
    (hVisible : ∀ c ∈ text.toList, isVisibleChar c = true) :
    http.headerValueFromStr text =
      some (.fromStatic text) := by
  rcases hWrites.accepts text (utf8_visible text hVisible)
    with ⟨value, hValue⟩
  rw [hValue]
  have hBytes := hWrites.keeps text value hValue
  cases value
  exact congrArg some (congrArg HeaderValue.mk hBytes)

/-
  Parsing an absolute URI takes as authority everything
  after `://` up to the first slash, question mark or number
  sign, and as path and query what follows up to a fragment.
  A text that starts with `http://` is an absolute URI with
  the scheme `http`.
-/
structure TakesAuthority (http : HttpCrate) : Prop where
  parts : ∀ text scheme authority target,
    http.uriFromStr text =
        some (.absolute scheme authority target) →
      ∃ before rest : List Char,
        ':' ∉ before ∧
          text.toList = before ++ "://".toList ++ rest ∧
          authority =
            String.ofList
              (rest.takeWhile (!endsAuthority ·)) ∧
          target.text =
            targetText (rest.dropWhile (!endsAuthority ·))
  scheme : ∀ (text : String) (rest : List Char) uri,
    text.toList = "http://".toList ++ rest →
      http.uriFromStr text = some uri →
        ∃ authority target,
          uri = .absolute "http" authority target

end HttpCrate

end Http
