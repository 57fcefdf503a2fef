import AjarGateway.Http.FieldValue
import AjarGateway.Http.Reference
import AjarGateway.Serving.Upstream

/-
  Stripping the headers that concern one connection only.

  What must not pass is stated on the bytes of the Connection
  values: a token names a header when it is a header name,
  whatever stands in the rest of its value.

  Key definitions include:
    * `Http.ListsName`
    * `Serving.IsHopByHop`
    * `Serving.LeavesNoHopByHop`

  Key theorems include:
    * `Serving.stripHopByHopHeaders_entries`
    * `Serving.mem_connectionNames_iff`
    * `Serving.leavesNoHopByHop_iff`
    * `Serving.stripHopByHopHeaders_frame`
-/

------------------------------------------------------------
-- Removing Many Names
------------------------------------------------------------

namespace Http

namespace HeaderMap

theorem mem_keys_iff
    (headers : HeaderMap)
    (name : HeaderName) :
    name ∈ headers.keys ↔
      ∃ entry ∈ headers.entries, entry.1 = name := by
  unfold keys
  rw [List.mem_eraseDups, List.mem_map]

/- The entries of a name are there when some value is. -/
theorem mem_keys_iff_getAll
    (headers : HeaderMap)
    (name : HeaderName) :
    name ∈ headers.keys ↔ headers.getAll name ≠ [] := by
  rw [mem_keys_iff]
  unfold getAll
  rw [Ne, List.map_eq_nil_iff, List.filter_eq_nil_iff]
  simp only [decide_eq_true_eq]
  constructor
  · rintro ⟨entry, hEntry, hName⟩ hNone
    exact hNone entry hEntry hName
  · intro hSome
    rcases not_forall₂.mp hSome with ⟨entry, hEntry, hName⟩
    exact ⟨entry, hEntry, not_not.mp hName⟩

/- Removing names one by one filters the entries once. -/
theorem foldl_remove_entries
    (names : List HeaderName)
    (headers : HeaderMap) :
    (names.foldl remove headers).entries =
      headers.entries.filter (fun entry =>
        entry.1 ∉ names) := by
  induction names generalizing headers with
  | nil => simp
  | cons name names ih =>
      rw [List.foldl_cons, ih, remove, List.filter_filter]
      apply List.filter_congr
      intro entry _
      simp [Bool.and_comm]

/- A filter on names keeps or drops a name as a whole. -/
theorem getAll_of_filter
    {headers kept : HeaderMap}
    {p : HeaderName → Bool}
    (hEntries :
      kept.entries =
        headers.entries.filter (fun entry => p entry.1))
    (name : HeaderName) :
    kept.getAll name =
      if p name = true then headers.getAll name else [] := by
  unfold getAll
  rw [hEntries, List.filter_filter]
  by_cases hKeep : p name = true
  · rw [if_pos hKeep]
    congr 1
    apply List.filter_congr
    intro entry _
    by_cases hName : entry.1 = name
    · simp [hName, hKeep]
    · simp [hName]
  · rw [if_neg hKeep, List.map_eq_nil_iff,
      List.filter_eq_nil_iff]
    intro entry _ hBoth
    simp only [Bool.and_eq_true, decide_eq_true_eq] at hBoth
    exact hKeep (hBoth.1 ▸ hBoth.2)

end HeaderMap

end Http

------------------------------------------------------------
-- Names Listed By A Value
------------------------------------------------------------

namespace Http

/-
  `HeaderName::from_str` accepts any case and returns the
  name in lower case.
-/
def HttpCrate.LowersNames (http : HttpCrate) : Prop :=
  ∀ text name, http.headerNameFromStr text = some name →
    name.text =
      String.ofList (Rust.toAsciiLowercase text.toList)

theorem reference_lowersNames :
    referenceHttp.LowersNames := by
  intro text name hName
  simp only [referenceHttp, referenceNameFromStr] at hName
  split at hName
  · cases hName
  · cases hName
    rfl

/-
  Some token of the value, without the optional whitespace
  around it, is a header name and names this header.
-/
def ListsName
    (http : HttpCrate)
    (value : HeaderValue)
    (name : HeaderName) : Prop :=
  ∃ token ∈ value.bytes.splitOn 0x2C,
    (trimSpace token).all isVisibleAscii = true ∧
      (http.headerNameFromStr
        (asciiText (trimSpace token))).isSome = true ∧
      (trimSpace token).map lowercaseByte =
        Rust.utf8 name.text

instance
    (http : HttpCrate)
    (value : HeaderValue)
    (name : HeaderName) :
    Decidable (ListsName http value name) := by
  unfold ListsName
  infer_instance

/- An ASCII text has the bytes it was made from. -/
theorem utf8_asciiText
    {bytes : List UInt8}
    (hAscii : ∀ byte ∈ bytes, byte.toNat < 128) :
    Rust.utf8 (asciiText bytes) = bytes := by
  have hChars : ∀ c ∈ bytes.map charOf, c.toNat < 128 := by
    intro c hMem
    rcases List.mem_map.mp hMem with ⟨byte, hByte, rfl⟩
    rw [charOf_toNat]
    exact hAscii byte hByte
  have hBack : ∀ byte ∈ bytes,
      ((fun c : Char => UInt8.ofNat c.toNat) ∘ charOf) byte =
        id byte := by
    intro byte _
    simp [charOf_toNat]
  have hBytes :=
    Rust.utf8_ofList_ascii (bytes.map charOf) hChars
  rw [List.map_map, List.map_congr_left hBack,
    List.map_id] at hBytes
  exact hBytes

/- Trimming takes from a token nothing but its ends. -/
theorem trimSpace_subset (bytes : List UInt8) :
    trimSpace bytes ⊆ bytes := by
  intro byte hMem
  have hBack :=
    (List.dropWhile_suffix isOptionalSpace).subset
      (List.mem_reverse.mp hMem)
  exact (List.dropWhile_suffix isOptionalSpace).subset
    (List.mem_reverse.mp hBack)

end Http

------------------------------------------------------------
-- Reading The Connection Field
------------------------------------------------------------

namespace AjarGateway

namespace Serving

open Http

/- A visible token as a text, and in lower case. -/
theorem lowercase_asciiText
    {bytes : List UInt8}
    (hVisible : ∀ byte ∈ bytes, isVisibleAscii byte = true) :
    String.ofList
        (Rust.toAsciiLowercase (asciiText bytes).toList) =
      asciiText (bytes.map lowercaseByte) := by
  have hLetters :
      Rust.toAsciiLowercase (bytes.map charOf) =
        (bytes.map lowercaseByte).map charOf := by
    rw [Rust.toAsciiLowercase, List.map_map, List.map_map]
    apply List.map_congr_left
    intro byte hByte
    exact (charOf_visible byte (hVisible byte hByte)).2.2
  rw [asciiText_toList, hLetters]
  rfl

/- The bytes of the name that a visible token parses to. -/
theorem headerNameFromStr_bytes
    {http : HttpCrate}
    (hLowers : http.LowersNames)
    {token : List UInt8}
    (hVisible : ∀ byte ∈ token, isVisibleAscii byte = true)
    {name : HeaderName}
    (hName :
      http.headerNameFromStr (asciiText token) = some name) :
    Rust.utf8 name.text = token.map lowercaseByte := by
  have hSmall : ∀ byte, isVisibleAscii byte = true →
      (lowercaseByte byte).toNat < 128 :=
    forall_byte (by decide +kernel)
  rw [hLowers _ _ hName, lowercase_asciiText hVisible]
  apply utf8_asciiText
  intro byte hByte
  rcases List.mem_map.mp hByte with ⟨letter, hLetter, rfl⟩
  exact hSmall letter (hVisible letter hLetter)

/- A readable value is read token by token. -/
theorem connectionNames_of_visible
    {http : HttpCrate}
    (hReads : http.ReadsVisibleAscii)
    {value : HeaderValue}
    (hVisible : value.bytes.all isVisibleAscii = true) :
    connectionNames http value =
      (value.bytes.splitOn 0x2C).filterMap (fun token =>
        http.headerNameFromStr
          (asciiText (trimSpace token))) := by
  have hComma : ',' = charOf 0x2C := by decide
  have hSplit :
      (asciiText value.bytes).toList.splitOn ',' =
        (value.bytes.splitOn 0x2C).map (List.map charOf) := by
    rw [asciiText_toList, hComma,
      Rust.splitOn_map charOf_injective]
  have hText := hReads value
  rw [if_pos hVisible] at hText
  unfold connectionNames
  rw [hText]
  simp only [hSplit, List.filterMap_map]
  apply List.filterMap_congr
  intro token hToken
  have hBytes : ∀ byte ∈ token, isVisibleAscii byte = true :=
    fun byte hByte =>
      List.all_eq_true.mp hVisible byte
        (Rust.subset_of_mem_splitOn hToken hByte)
  rw [Function.comp_apply, trim_map_charOf hBytes]
  rfl

/- What the gateway reads from a value, and when. -/
theorem mem_connectionNames_iff
    {http : HttpCrate}
    (hReads : http.ReadsVisibleAscii)
    (hLowers : http.LowersNames)
    (value : HeaderValue)
    (name : HeaderName) :
    name ∈ connectionNames http value ↔
      value.bytes.all isVisibleAscii = true ∧
        ListsName http value name := by
  by_cases hVisible : value.bytes.all isVisibleAscii = true
  · have hToken : ∀ token ∈ value.bytes.splitOn 0x2C,
        ∀ byte ∈ trimSpace token,
          isVisibleAscii byte = true :=
      fun token hToken byte hByte =>
        List.all_eq_true.mp hVisible byte
          (Rust.subset_of_mem_splitOn hToken
            (trimSpace_subset token hByte))
    rw [connectionNames_of_visible hReads hVisible,
      List.mem_filterMap]
    constructor
    · rintro ⟨token, hMem, hName⟩
      refine ⟨hVisible, token, hMem, ?_, ?_, ?_⟩
      · exact List.all_eq_true.mpr (hToken token hMem)
      · exact Option.isSome_iff_exists.mpr ⟨name, hName⟩
      · exact (headerNameFromStr_bytes hLowers
          (hToken token hMem) hName).symm
    · rintro ⟨-, token, hMem, -, hSome, hBytes⟩
      rcases Option.isSome_iff_exists.mp hSome with
        ⟨parsed, hParsed⟩
      refine ⟨token, hMem, ?_⟩
      have hText := headerNameFromStr_bytes hLowers
        (hToken token hMem) hParsed
      rw [hBytes] at hText
      have hSame : parsed = name := by
        cases parsed
        cases name
        exact congrArg HeaderName.mk
          (Rust.utf8_injective hText)
      rw [hParsed, hSame]
  · have hText := hReads value
    rw [if_neg hVisible] at hText
    unfold connectionNames
    rw [hText]
    simp [hVisible]

end Serving

end AjarGateway

------------------------------------------------------------
-- What Is Removed
------------------------------------------------------------

namespace AjarGateway

namespace Serving

open Http

/- The names that concern one connection by themselves. -/
def fixedHopByHop : List HeaderName :=
  [⟨"connection"⟩, ⟨"keep-alive"⟩, ⟨"te"⟩, ⟨"trailer"⟩,
    ⟨"transfer-encoding"⟩, ⟨"upgrade"⟩]

def isProxyName (name : HeaderName) : Bool :=
  "proxy-".toList.isPrefixOf
    (Rust.toAsciiLowercase name.text.toList)

/- A header that must not cross the gateway. -/
def IsHopByHop
    (http : HttpCrate)
    (headers : HeaderMap)
    (name : HeaderName) : Prop :=
  name ∈ fixedHopByHop ∨ isProxyName name = true ∨
    ∃ value ∈ headers.getAll .connection,
      ListsName http value name

/- A header that the gateway finds to be one. -/
def isStripped
    (http : HttpCrate)
    (headers : HeaderMap)
    (name : HeaderName) : Bool :=
  (hopByHopNames http headers).contains name ||
    isProxyName name

/- Stripping is one filter on the entries. -/
theorem stripHopByHopHeaders_entries
    (http : HttpCrate)
    (headers : HeaderMap) :
    (stripHopByHopHeaders http headers).entries =
      headers.entries.filter (fun entry =>
        !isStripped http headers entry.1) := by
  unfold stripHopByHopHeaders
  rw [HeaderMap.foldl_remove_entries]
  apply List.filter_congr
  intro entry hEntry
  have hKey : entry.1 ∈ headers.keys :=
    (HeaderMap.mem_keys_iff headers entry.1).mpr
      ⟨entry, hEntry, rfl⟩
  have hMem :
      decide (entry.1 ∈ hopByHopNames http headers ++
          headers.keys.filter isProxyName) =
        isStripped http headers entry.1 := by
    rw [Bool.eq_iff_iff]
    simp [isStripped, hKey]
  show decide (entry.1 ∉ hopByHopNames http headers ++
    headers.keys.filter isProxyName) = _
  rw [decide_not, hMem]

theorem getAll_stripHopByHopHeaders
    (http : HttpCrate)
    (headers : HeaderMap)
    (name : HeaderName) :
    (stripHopByHopHeaders http headers).getAll name =
      if isStripped http headers name = true then []
      else headers.getAll name := by
  rw [HeaderMap.getAll_of_filter
    (p := fun name => !isStripped http headers name)
    (stripHopByHopHeaders_entries http headers)]
  cases isStripped http headers name <;> rfl

theorem mem_keys_stripHopByHopHeaders_iff
    (http : HttpCrate)
    (headers : HeaderMap)
    (name : HeaderName) :
    name ∈ (stripHopByHopHeaders http headers).keys ↔
      name ∈ headers.keys ∧
        isStripped http headers name = false := by
  rw [HeaderMap.mem_keys_iff_getAll,
    HeaderMap.mem_keys_iff_getAll,
    getAll_stripHopByHopHeaders]
  cases isStripped http headers name <;> simp

/- The gateway finds what readable values list. -/
theorem isStripped_iff
    {http : HttpCrate}
    (hReads : http.ReadsVisibleAscii)
    (hLowers : http.LowersNames)
    (headers : HeaderMap)
    (name : HeaderName) :
    isStripped http headers name = true ↔
      name ∈ fixedHopByHop ∨ isProxyName name = true ∨
        ∃ value ∈ headers.getAll .connection,
          value.bytes.all isVisibleAscii = true ∧
            ListsName http value name := by
  unfold isStripped hopByHopNames
  simp only [Bool.or_eq_true, List.contains_iff_mem,
    List.mem_append, List.mem_flatMap,
    mem_connectionNames_iff hReads hLowers]
  rw [or_assoc, or_comm (b := isProxyName name = true)]
  rfl

/- It never finds more than must be removed. -/
theorem isHopByHop_of_isStripped
    {http : HttpCrate}
    (hReads : http.ReadsVisibleAscii)
    (hLowers : http.LowersNames)
    {headers : HeaderMap}
    {name : HeaderName}
    (hStripped : isStripped http headers name = true) :
    IsHopByHop http headers name := by
  rcases (isStripped_iff hReads hLowers headers name).mp
      hStripped with
    hFixed | hProxy | ⟨value, hValue, -, hLists⟩
  · exact .inl hFixed
  · exact .inr (.inl hProxy)
  · exact .inr (.inr ⟨value, hValue, hLists⟩)

end Serving

end AjarGateway

------------------------------------------------------------
-- Nothing Hop-By-Hop Is Left
------------------------------------------------------------

namespace AjarGateway

namespace Serving

open Http

/- No header that must not pass is left. -/
def LeavesNoHopByHop
    (http : HttpCrate)
    (headers : HeaderMap) : Prop :=
  ∀ name ∈ (stripHopByHopHeaders http headers).keys,
    ¬IsHopByHop http headers name

/-
  A value with bytes from 128 on is not read at all: what it
  lists is removed only for another reason.
-/
theorem leavesNoHopByHop_iff
    (http : HttpCrate)
    (hReads : http.ReadsVisibleAscii)
    (hLowers : http.LowersNames)
    (headers : HeaderMap) :
    LeavesNoHopByHop http headers ↔
      ∀ value ∈ headers.getAll .connection,
        ∀ name ∈ headers.keys,
          ListsName http value name →
            value.bytes.all isVisibleAscii = true ∨
              name ∈ fixedHopByHop ∨
                isProxyName name = true ∨
                  ∃ other ∈ headers.getAll .connection,
                    other.bytes.all isVisibleAscii = true ∧
                      ListsName http other name := by
  constructor
  · intro hLeaves value hValue name hKey hLists
    right
    rw [← isStripped_iff hReads hLowers]
    by_contra hKept
    rw [Bool.not_eq_true] at hKept
    have hLeft : name ∈
        (stripHopByHopHeaders http headers).keys :=
      (mem_keys_stripHopByHopHeaders_iff http headers
        name).mpr ⟨hKey, hKept⟩
    apply hLeaves name hLeft
    exact .inr (.inr ⟨value, hValue, hLists⟩)
  · intro hListed name hLeft hHop
    rcases (mem_keys_stripHopByHopHeaders_iff http headers
        name).mp hLeft with ⟨hKey, hKept⟩
    have hStripped : isStripped http headers name = true := by
      rw [isStripped_iff hReads hLowers]
      rcases hHop with
        hFixed | hProxy | ⟨value, hValue, hLists⟩
      · exact .inl hFixed
      · exact .inr (.inl hProxy)
      · rcases hListed value hValue name hKey hLists with
          hVisible | hOther
        · exact .inr (.inr
            ⟨value, hValue, hVisible, hLists⟩)
        · exact hOther
    rw [hStripped] at hKept
    cases hKept

/- A value that lists a header before a byte above 127. -/
def shieldedHeaders : HeaderMap :=
  (HeaderMap.single .connection
      ⟨Rust.utf8 "x-remove, " ++ [0xFF]⟩).append
    ⟨"x-remove"⟩ (.fromStatic "present")

theorem leavesNoHopByHop_shielded :
    ¬LeavesNoHopByHop referenceHttp shieldedHeaders := by
  intro hLeaves
  apply hLeaves ⟨"x-remove"⟩ (by decide)
  right
  right
  refine ⟨⟨Rust.utf8 "x-remove, " ++ [0xFF]⟩, ?_, ?_⟩
  · decide
  · decide

/- A readable value in mixed case, with a malformed token. -/
theorem leavesNoHopByHop_listed :
    LeavesNoHopByHop referenceHttp
      ((HeaderMap.single .connection
          (.fromStatic "a b, X-Remove ,")).append
        ⟨"x-remove"⟩ (.fromStatic "present")) := by
  rw [leavesNoHopByHop_iff referenceHttp
    reference_readsVisibleAscii reference_lowersNames]
  intro value hValue name _ _
  left
  have hOnly :
      value = .fromStatic "a b, X-Remove ," := by
    simpa [HeaderMap.getAll_append, HeaderMap.getAll_single,
      HeaderName.connection] using hValue
  rw [hOnly]
  decide

end Serving

end AjarGateway

------------------------------------------------------------
-- Nothing Else Is Removed
------------------------------------------------------------

namespace AjarGateway

namespace Serving

open Http

/- Once stripped, only the fixed names are looked for. -/
theorem isStripped_stripHopByHopHeaders
    (http : HttpCrate)
    (headers : HeaderMap)
    (name : HeaderName)
    (hStripped :
      isStripped http (stripHopByHopHeaders http headers)
        name = true) :
    isStripped http headers name = true := by
  have hConnection :
      isStripped http headers .connection = true := by
    simp [isStripped, hopByHopNames, HeaderName.connection]
  have hNone :
      (stripHopByHopHeaders http headers).getAll
          .connection = [] := by
    rw [getAll_stripHopByHopHeaders, if_pos hConnection]
  unfold isStripped hopByHopNames at hStripped ⊢
  rw [hNone] at hStripped
  simp only [List.flatMap_nil, List.append_nil,
    List.contains_append, Bool.or_eq_true] at hStripped ⊢
  rcases hStripped with hFixed | hProxy
  · exact .inl (.inl hFixed)
  · exact .inr hProxy

theorem stripHopByHopHeaders_idempotent
    (http : HttpCrate)
    (headers : HeaderMap) :
    stripHopByHopHeaders http
        (stripHopByHopHeaders http headers) =
      stripHopByHopHeaders http headers := by
  have hEntries :
      (stripHopByHopHeaders http
          (stripHopByHopHeaders http headers)).entries =
        (stripHopByHopHeaders http headers).entries := by
    rw [stripHopByHopHeaders_entries, List.filter_eq_self]
    intro entry hEntry
    rw [stripHopByHopHeaders_entries,
      List.mem_filter] at hEntry
    cases hAgain : isStripped http
        (stripHopByHopHeaders http headers) entry.1 with
    | false => rfl
    | true =>
        have hBefore := isStripped_stripHopByHopHeaders
          http headers entry.1 hAgain
        simp [hBefore] at hEntry
  cases hResult : stripHopByHopHeaders http
      (stripHopByHopHeaders http headers)
  rw [hResult] at hEntries
  exact congrArg HeaderMap.mk hEntries

/-
  Only what must not pass disappears, a name goes with all
  its values or keeps them all in order, and a second
  stripping changes nothing.
-/
theorem stripHopByHopHeaders_frame
    (http : HttpCrate)
    (hReads : http.ReadsVisibleAscii)
    (hLowers : http.LowersNames)
    (headers : HeaderMap) :
    (∀ name ∈ headers.keys,
        name ∉ (stripHopByHopHeaders http headers).keys →
          IsHopByHop http headers name) ∧
      (∀ name, ¬IsHopByHop http headers name →
        (stripHopByHopHeaders http headers).getAll name =
          headers.getAll name) ∧
      (∀ name,
        (stripHopByHopHeaders http headers).getAll name =
            [] ∨
          (stripHopByHopHeaders http headers).getAll name =
            headers.getAll name) ∧
      stripHopByHopHeaders http
          (stripHopByHopHeaders http headers) =
        stripHopByHopHeaders http headers := by
  refine ⟨?_, ?_, ?_, ?_⟩
  · intro name hKey hGone
    rw [mem_keys_stripHopByHopHeaders_iff, not_and,
      Bool.not_eq_false] at hGone
    exact isHopByHop_of_isStripped hReads hLowers
      (hGone hKey)
  · intro name hPasses
    rw [getAll_stripHopByHopHeaders, if_neg]
    intro hStripped
    exact hPasses
      (isHopByHop_of_isStripped hReads hLowers hStripped)
  · intro name
    rw [getAll_stripHopByHopHeaders]
    split
    · exact .inl rfl
    · exact .inr rfl
  · exact stripHopByHopHeaders_idempotent http headers

theorem stripHopByHopHeaders_frame_shielded :
    (∀ name ∈ shieldedHeaders.keys,
        name ∉ (stripHopByHopHeaders referenceHttp
            shieldedHeaders).keys →
          IsHopByHop referenceHttp shieldedHeaders name) ∧
      (stripHopByHopHeaders referenceHttp
          shieldedHeaders).getAll ⟨"x-remove"⟩ =
        [.fromStatic "present"] := by
  have hFrame := stripHopByHopHeaders_frame referenceHttp
    reference_readsVisibleAscii reference_lowersNames
    shieldedHeaders
  exact ⟨hFrame.1, by decide⟩

end Serving

end AjarGateway
