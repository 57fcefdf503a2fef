import AjarGateway.Http.AcceptField
import AjarGateway.Http.FieldValue
import AjarGateway.Serving.Preference

/-
  What an Accept header selects, told by its items.

  The gateway separates items at every comma and parameters
  at every semicolon, also within quoted strings, and takes
  any number of Rust's grammar for a weight.  On a header
  without quotes and with ordinary weights this is what HTTP
  says.

  Key definitions include:
    * `Serving.Selects`
    * `Serving.ItemAccepts`
    * `Serving.OrdinaryAccept`

  Key theorems include:
    * `Serving.selects_of_itemAccepts`
    * `Serving.negotiate_selects`
-/

------------------------------------------------------------
-- Strongest Offers
------------------------------------------------------------

namespace AjarGateway

namespace Serving

/- The signed view if accepted, else markdown if accepted. -/
structure Selects
    (acceptsJson acceptsMarkdown : Prop)
    (selected : Representation) : Prop where
  ajarJson : selected = .ajarJson ↔ acceptsJson
  markdown : selected = .markdown ↔ ¬acceptsJson ∧ acceptsMarkdown
  passthrough :
    selected = .passthrough ↔ ¬acceptsJson ∧ ¬acceptsMarkdown

/- A strongest offer selects among what is offered. -/
theorem selects_sup
    (offered : Multiset Representation) :
    Selects (.ajarJson ∈ offered) (.markdown ∈ offered)
      offered.sup := by
  have hJson : offered.sup = .ajarJson ↔ .ajarJson ∈ offered := by
    constructor
    · intro hSup
      by_contra hAbsent
      have hBelow : ∀ offer ∈ offered, offer ≤ .markdown := by
        intro offer hOffer
        cases offer with
        | ajarJson => exact absurd hOffer hAbsent
        | markdown => exact le_refl _
        | passthrough => exact bot_le
      have hSupBelow := Multiset.sup_le.mpr hBelow
      rw [hSup] at hSupBelow
      exact absurd hSupBelow (by decide)
    · intro hMem
      exact top_le_iff.mp (Multiset.le_sup hMem)
  have hNone : offered.sup = .passthrough ↔
      .ajarJson ∉ offered ∧ .markdown ∉ offered := by
    constructor
    · intro hSup
      refine ⟨fun hMem => ?_, fun hMem => ?_⟩ <;>
        have hBelow := Multiset.le_sup hMem <;>
        rw [hSup] at hBelow <;>
        exact absurd hBelow (by decide)
    · rintro ⟨hNotJson, hNotMarkdown⟩
      have hBelow : ∀ offer ∈ offered,
          offer ≤ (⊥ : Representation) := by
        intro offer hOffer
        cases offer with
        | ajarJson => exact absurd hOffer hNotJson
        | markdown => exact absurd hOffer hNotMarkdown
        | passthrough => exact bot_le
      exact le_bot_iff.mp (Multiset.sup_le.mpr hBelow)
  refine ⟨hJson, ?_, hNone⟩
  rw [← hJson]
  cases hSup : offered.sup with
  | ajarJson => simp
  | markdown =>
      have hSome := (not_congr hNone).mp (by simp [hSup])
      have hNotJson := (not_congr hJson).mp (by simp [hSup])
      simp only [not_and, not_not] at hSome
      simp [hSome hNotJson]
  | passthrough =>
      simp [(hNone.mp hSup).2]

end Serving

end AjarGateway

------------------------------------------------------------
-- Weights Of Items
------------------------------------------------------------

namespace AjarGateway

namespace Serving

/- The value of a parameter that the loop reads as a weight. -/
def readWeight (parameter : List Char) : Option (List Char) :=
  let pair := splitPair (Rust.trim parameter)
  if Rust.eqIgnoreAsciiCase (Rust.trim pair.1) ['q'] then
    some (Rust.trimMatches (· == '"') (Rust.trim pair.2))
  else
    none

def itemWeights (item : List Char) : List (List Char) :=
  (item.splitOn ';').tail.filterMap readWeight

/- Greater than zero; neither a NaN nor negative. -/
def isPositive : Rust.F32 → Bool
| .nan => false
| .infinite negative => !negative
| .finite negative zero => !(negative || zero)

/- Without a NaN, above zero is the negation of at most. -/
theorem leZero_eq
    {number : Rust.F32}
    (hNumber : number ≠ .nan) :
    number.leZero = !isPositive number := by
  cases number with
  | nan => exact absurd rfl hNumber
  | infinite negative => cases negative <;> rfl
  | finite negative zero =>
      cases negative <;> cases zero <;> rfl

/- One round of the loop over parameters. -/
theorem readParameter_eq
    (weight : Weight)
    (parameter : List Char) :
    readParameter weight parameter =
      match readWeight parameter with
      | none => weight
      | some text =>
          match Rust.parseF32 text with
          | some number => { weight with q := number }
          | none => { weight with invalidQ := true } := by
  unfold readParameter readWeight
  dsimp only
  split <;> rfl

/- The loop over parameters keeps the last number. -/
theorem foldl_readParameter
    (parameters : List (List Char))
    (weight : Weight) :
    parameters.foldl readParameter weight =
      ⟨(((parameters.filterMap readWeight).filterMap
            Rust.parseF32).getLast?).getD weight.q,
        weight.invalidQ ||
          (parameters.filterMap readWeight).any fun text =>
            (Rust.parseF32 text).isNone⟩ := by
  induction parameters generalizing weight with
  | nil => simp
  | cons parameter rest ih =>
      rw [List.foldl_cons, ih, List.filterMap_cons,
        readParameter_eq]
      cases readWeight parameter with
      | none => rfl
      | some text =>
          cases hNumber : Rust.parseF32 text with
          | none => simp [hNumber]
          | some number =>
              simp [hNumber, List.getLast?_cons]

/- The last number among weights, or one. -/
def lastNumber (weights : List (List Char)) : Rust.F32 :=
  ((weights.filterMap Rust.parseF32).getLast?).getD .one

/- Every weight is a number, and the last is above zero. -/
def numberAccepted (weights : List (List Char)) : Bool :=
  weights.all (fun weight => (Rust.parseF32 weight).isSome) &&
    isPositive (lastNumber weights)

theorem itemWeight_eq
    (item : List Char) :
    itemWeight item =
      ⟨lastNumber (itemWeights item),
        (itemWeights item).any fun text =>
          (Rust.parseF32 text).isNone⟩ := by
  unfold itemWeight weightOf
  rw [foldl_readParameter, Bool.false_or]
  rfl

theorem lastNumber_ne_nan
    {weights : List (List Char)}
    (hNumbers : ∀ text ∈ weights,
      Rust.parseF32 text ≠ some .nan) :
    lastNumber weights ≠ .nan := by
  intro hNan
  unfold lastNumber at hNan
  cases hLast : (weights.filterMap Rust.parseF32).getLast? with
  | none =>
      rw [hLast] at hNan
      cases hNan
  | some number =>
      rw [hLast, Option.getD_some] at hNan
      rcases List.mem_filterMap.mp
          (List.mem_of_getLast? hLast) with
        ⟨text, hText, hParsed⟩
      exact hNumbers text hText (hNan ▸ hParsed)

/- What the loop over an item's parameters decides. -/
theorem itemWeight_refused
    {item : List Char}
    (hNumber : lastNumber (itemWeights item) ≠ .nan) :
    ((itemWeight item).invalidQ ||
        (itemWeight item).q.leZero) =
      !numberAccepted (itemWeights item) := by
  rw [itemWeight_eq, leZero_eq hNumber]
  unfold numberAccepted
  rw [Bool.not_and, List.not_all_eq_any_not]
  simp

end Serving

end AjarGateway

------------------------------------------------------------
-- Accepted Items
------------------------------------------------------------

namespace AjarGateway

namespace Serving

/- An item of a media type with an accepted weight. -/
def ItemAccepts (mediaType header : String) : Prop :=
  ∃ item ∈ header.toList.splitOn ',',
    itemMediaType item = mediaType.toList ∧
      numberAccepted (itemWeights item) = true

/- An item of one of the two media types of a view. -/
def NamesView (item : List Char) : Prop :=
  itemMediaType item = ajarJson.toList ∨
    itemMediaType item = markdown.toList

/- The weight that counts for such an item is no NaN. -/
def NoNanWeight (header : String) : Prop :=
  ∀ item ∈ header.toList.splitOn ',',
    NamesView item → lastNumber (itemWeights item) ≠ .nan

/- What an item offers, by its media type and weight. -/
theorem offered_iff
    {item : List Char}
    (hNumber :
      NamesView item →
        lastNumber (itemWeights item) ≠ .nan) :
    (offered item = .ajarJson ↔
        itemMediaType item = ajarJson.toList ∧
          numberAccepted (itemWeights item) = true) ∧
      (offered item = .markdown ↔
        itemMediaType item = markdown.toList ∧
          numberAccepted (itemWeights item) = true) := by
  have hDifferent : ajarJson.toList ≠ markdown.toList := by
    decide
  unfold offered
  by_cases hNames : NamesView item
  · rw [itemWeight_refused (hNumber hNames)]
    cases numberAccepted (itemWeights item) with
    | false => simp
    | true =>
        rcases hNames with hJson | hMarkdown
        · simp [hJson, hDifferent]
        · simp [hMarkdown, hDifferent.symm]
  · rw [NamesView, not_or] at hNames
    simp [hNames.1, hNames.2]

/- A representation is on offer if some item accepts it. -/
theorem mem_offers_iff
    {header mediaType : String}
    {representation : Representation}
    (hOffer : ∀ item ∈ header.toList.splitOn ',',
      offered item = representation ↔
        itemMediaType item = mediaType.toList ∧
          numberAccepted (itemWeights item) = true) :
    representation ∈ offers header ↔
      ItemAccepts mediaType header := by
  unfold offers ItemAccepts
  rw [Multiset.mem_coe, List.mem_map]
  apply exists_congr
  intro item
  apply and_congr_right
  intro hItem
  exact hOffer item hItem

/- The items that accept decide what is selected. -/
theorem selects_of_itemAccepts
    {header : String}
    (hNumbers : NoNanWeight header) :
    Selects (ItemAccepts ajarJson header)
      (ItemAccepts markdown header)
      (negotiate (some header) true) := by
  have hJson :=
    mem_offers_iff fun item hItem =>
      (offered_iff (hNumbers item hItem)).1
  have hMarkdown :=
    mem_offers_iff fun item hItem =>
      (offered_iff (hNumbers item hItem)).2
  rw [negotiate_eq_sup_offers, ← hJson, ← hMarkdown]
  exact selects_sup (offers header)

end Serving

end AjarGateway

------------------------------------------------------------
-- Ordinary Headers
------------------------------------------------------------

namespace AjarGateway

namespace Serving

/-
  A header without quotes, whose spaces are blanks and tabs,
  and whose elements have at most one weight: a weight of
  HTTP, or no number at all.
-/
structure OrdinaryAccept (header : String) : Prop where
  noQuote : '"' ∉ header.toList
  blanks : ∀ c ∈ header.toList,
    Rust.isWhitespace c = Http.isOws c
  weights : ∀ element ∈ header.toList.splitOn ',',
    Http.elementWeights element = [] ∨
      ∃ weight, Http.elementWeights element = [weight] ∧
        (Http.isQvalue weight = true ∨
          Rust.parseF32 weight = none)

/- Digits are worth nothing when none is above zero. -/
theorem digits_zero_iff
    {digits : List Char}
    (hDigits : ∀ c ∈ digits, c.isDigit = true) :
    (Nat.ofDigitChars 10 digits 0 == 0) =
      !Http.qvaluePositive digits := by
  rw [Bool.eq_iff_iff, beq_iff_eq,
    Rust.ofDigitChars_eq_zero_iff]
  unfold Http.qvaluePositive
  rw [Bool.not_eq_true', List.any_eq_false]
  simp only [true_and]
  apply forall_congr'
  intro c
  apply imp_congr_right
  intro hMem
  have hDigit := hDigits c hMem
  have hLeast : '0'.toNat ≤ c.toNat :=
    (Char.isDigit_iff_toNat.mp hDigit).1
  rw [hDigit, Bool.true_and, bne_iff_ne, not_not,
    ← Char.toNat_inj]
  omega

/- A decimal of HTTP is a finite number of Rust. -/
theorem parseF32_of_decimals
    {first : Char}
    {decimals : List Char}
    (hFirst : first = '0' ∨ first = '1')
    (hDecimals : decimals.all Char.isDigit = true)
    (hShort : decimals.length ≤ 3) :
    Rust.parseF32 (first :: '.' :: decimals) =
      some (.finite false
        (!Http.qvaluePositive (first :: '.' :: decimals))) := by
  have hDigit : first.isDigit = true := by
    rcases hFirst with rfl | rfl <;> decide
  have hDigits : ∀ c ∈ first :: decimals, c.isDigit = true :=
    List.forall_mem_cons.mpr
      ⟨hDigit, List.all_eq_true.mp hDecimals⟩
  have hPositive :
      Http.qvaluePositive (first :: '.' :: decimals) =
        Http.qvaluePositive (first :: decimals) := by
    have hPoint : Char.isDigit '.' = false := by decide
    simp [Http.qvaluePositive, hPoint]
  have hDecimal :
      Rust.parseDecimal (first :: '.' :: decimals) =
        some (!Http.qvaluePositive (first :: '.' :: decimals)) := by
    rw [Rust.parseDecimal_of_digits hDigit hDecimals,
      Rust.roundsToZero_of_short _ _ hShort,
      digits_zero_iff hDigits, hPositive]
  unfold Rust.parseF32
  rcases hFirst with rfl | rfl <;> simp [hDecimal]

/- A weight of HTTP is a finite number of Rust. -/
theorem parseF32_of_isQvalue
    {weight : List Char}
    (hQvalue : Http.isQvalue weight = true) :
    Rust.parseF32 weight =
      some (.finite false (!Http.qvaluePositive weight)) := by
  unfold Http.isQvalue at hQvalue
  split at hQvalue
  · decide
  · decide
  · simp only [Bool.and_eq_true, decide_eq_true_eq] at hQvalue
    exact parseF32_of_decimals (by decide) hQvalue.2 hQvalue.1
  · simp only [Bool.and_eq_true, decide_eq_true_eq,
      List.all_eq_true, beq_iff_eq] at hQvalue
    refine parseF32_of_decimals (by decide)
      (List.all_eq_true.mpr ?_) hQvalue.1
    intro c hMem
    rw [hQvalue.2 c hMem]
    decide
  · cases hQvalue

/- On ordinary text both readers trim the same spaces. -/
theorem trim_eq_trimOws
    {text : List Char}
    (hBlanks : ∀ c ∈ text, Rust.isWhitespace c = Http.isOws c) :
    Rust.trim text = Http.trimOws text :=
  Rust.trimMatches_congr hBlanks

/- On ordinary text both readers find the same weight. -/
theorem readWeight_eq
    {parameter : List Char}
    (hNoQuote : '"' ∉ parameter)
    (hBlanks : ∀ c ∈ parameter,
      Rust.isWhitespace c = Http.isOws c) :
    readWeight parameter = Http.weightParameter parameter := by
  have hText : Rust.trim parameter ⊆ parameter :=
    Rust.trimMatches_subset _ _
  have hName :
      (splitPair (Rust.trim parameter)).1 ⊆ parameter :=
    List.Subset.trans (List.takeWhile_prefix _).subset hText
  have hValue :
      (splitPair (Rust.trim parameter)).2 ⊆ parameter :=
    List.Subset.trans (List.drop_subset _ _)
      (List.Subset.trans (List.dropWhile_suffix _).subset hText)
  have hUnquoted :
      Rust.trimMatches (· == '"')
          (Rust.trim (splitPair (Rust.trim parameter)).2) =
        Rust.trim (splitPair (Rust.trim parameter)).2 := by
    apply Rust.trimMatches_of_none
    intro c hMem
    have hIn := hValue (Rust.trimMatches_subset _ _ hMem)
    simp only [beq_eq_false_iff_ne]
    exact fun hEq => hNoQuote (hEq ▸ hIn)
  unfold readWeight
  dsimp only
  rw [hUnquoted, trim_eq_trimOws fun c hMem =>
      hBlanks c (hName hMem),
    trim_eq_trimOws fun c hMem => hBlanks c (hValue hMem),
    trim_eq_trimOws hBlanks]
  rfl

/- On ordinary text both readers see the same element. -/
theorem item_eq_element
    {item : List Char}
    (hNoQuote : '"' ∉ item)
    (hBlanks : ∀ c ∈ item,
      Rust.isWhitespace c = Http.isOws c) :
    itemMediaType item = Http.elementType item ∧
      itemWeights item = Http.elementWeights item := by
  have hParts :=
    Http.splitOutsideQuotes_of_no_quote ';' item hNoQuote
  constructor
  · have hFirst : (item.splitOn ';').headD [] ⊆ item := by
      rw [Http.headD_splitOn]
      exact (List.takeWhile_prefix _).subset
    unfold itemMediaType Http.elementType
    rw [hParts, trim_eq_trimOws fun c hMem =>
      hBlanks c (hFirst hMem)]
  · unfold itemWeights Http.elementWeights
    rw [hParts]
    apply List.filterMap_congr
    intro parameter hMem
    have hIn : parameter ⊆ item :=
      Rust.subset_of_mem_splitOn (List.mem_of_mem_tail hMem)
    exact readWeight_eq (fun hQuote => hNoQuote (hIn hQuote))
      (fun c hC => hBlanks c (hIn hC))

/- An ordinary weight is judged alike by both readers. -/
theorem numberAccepted_eq
    {weights : List (List Char)}
    (hOrdinary : weights = [] ∨
      ∃ weight, weights = [weight] ∧
        (Http.isQvalue weight = true ∨
          Rust.parseF32 weight = none)) :
    numberAccepted weights = Http.weightAccepted weights := by
  rcases hOrdinary with rfl | ⟨weight, rfl, hQvalue | hNone⟩
  · rfl
  · simp [numberAccepted, lastNumber, Http.weightAccepted,
      parseF32_of_isQvalue hQvalue, hQvalue, isPositive]
  · have hNotQvalue : Http.isQvalue weight = false := by
      by_contra hQvalue
      rw [Bool.not_eq_false] at hQvalue
      rw [parseF32_of_isQvalue hQvalue] at hNone
      cases hNone
    simp [numberAccepted, Http.weightAccepted, hNone,
      hNotQvalue]

namespace OrdinaryAccept

variable {header : String}

theorem item
    (hOrdinary : OrdinaryAccept header)
    {item : List Char}
    (hItem : item ∈ header.toList.splitOn ',') :
    itemMediaType item = Http.elementType item ∧
      itemWeights item = Http.elementWeights item := by
  have hIn := Rust.subset_of_mem_splitOn hItem
  exact item_eq_element
    (fun hQuote => hOrdinary.noQuote (hIn hQuote))
    (fun c hC => hOrdinary.blanks c (hIn hC))

theorem noNanWeight
    (hOrdinary : OrdinaryAccept header) :
    NoNanWeight header := by
  intro item hItem _
  apply lastNumber_ne_nan
  intro text hText hNan
  rw [(hOrdinary.item hItem).2] at hText
  rcases hOrdinary.weights item hItem with
    hNone | ⟨weight, hOne, hQvalue | hNone⟩
  · rw [hNone] at hText
    cases hText
  · rw [hOne, List.mem_singleton] at hText
    rw [hText, parseF32_of_isQvalue hQvalue] at hNan
    cases hNan
  · rw [hOne, List.mem_singleton] at hText
    rw [hText, hNone] at hNan
    cases hNan

/- An ordinary header is read as HTTP says. -/
theorem itemAccepts_iff
    (hOrdinary : OrdinaryAccept header)
    (mediaType : String) :
    ItemAccepts mediaType header ↔
      Http.Accepts mediaType header := by
  unfold ItemAccepts Http.Accepts
  rw [Http.splitOutsideQuotes_of_no_quote _ _
    hOrdinary.noQuote]
  apply exists_congr
  intro item
  apply and_congr_right
  intro hItem
  rw [(hOrdinary.item hItem).1, (hOrdinary.item hItem).2,
    numberAccepted_eq (hOrdinary.weights item hItem)]

end OrdinaryAccept

end Serving

end AjarGateway

------------------------------------------------------------
-- Selection
------------------------------------------------------------

namespace AjarGateway

namespace Serving

/-
  A header without a NaN that counts selects by its items,
  and an ordinary header selects as HTTP says.
-/
theorem negotiate_selects
    (header : String) :
    (NoNanWeight header →
      Selects (ItemAccepts ajarJson header)
        (ItemAccepts markdown header)
        (negotiate (some header) true)) ∧
    (OrdinaryAccept header →
      Selects (Http.Accepts ajarJson header)
        (Http.Accepts markdown header)
        (negotiate (some header) true)) := by
  refine ⟨selects_of_itemAccepts, ?_⟩
  intro hOrdinary
  rw [← hOrdinary.itemAccepts_iff,
    ← hOrdinary.itemAccepts_iff]
  exact selects_of_itemAccepts hOrdinary.noNanWeight

/- Half a weight for markdown selects markdown. -/
theorem negotiate_selects_halfWeight :
    ItemAccepts markdown "text/markdown;q=0.5" ∧
      negotiate (some "text/markdown;q=0.5") true =
        .markdown := by
  have hOrdinary : OrdinaryAccept "text/markdown;q=0.5" := by
    refine ⟨by decide, ?_, ?_⟩
    · have hAll :
          "text/markdown;q=0.5".toList.all (fun c =>
            Rust.isWhitespace c == Http.isOws c) = true := by
        decide
      exact fun c hMem =>
        beq_iff_eq.mp (List.all_eq_true.mp hAll c hMem)
    · have hWeights :
          ∀ element ∈ "text/markdown;q=0.5".toList.splitOn ',',
            Http.elementWeights element = ["0.5".toList] := by
        decide
      intro element hMem
      exact Or.inr ⟨_, hWeights element hMem,
        Or.inl (by decide)⟩
  have hByItems :=
    (negotiate_selects "text/markdown;q=0.5").1
      hOrdinary.noNanWeight
  have hByHttp :=
    (negotiate_selects "text/markdown;q=0.5").2 hOrdinary
  have hSelected :=
    hByHttp.markdown.mpr
      ⟨by decide, by decide⟩
  exact ⟨(hByItems.markdown.mp hSelected).2, hSelected⟩

/-
  HTTP reads no markdown from a quoted string, and no weight
  from a number above one; the gateway reads both.
-/
theorem negotiate_quotedComma :
    ¬Selects
        (Http.Accepts ajarJson
          "text/plain;note=\"a,text/markdown,b\"")
        (Http.Accepts markdown
          "text/plain;note=\"a,text/markdown,b\"")
        (negotiate
          (some "text/plain;note=\"a,text/markdown,b\"")
          true) ∧
      ¬Selects
        (Http.Accepts ajarJson "application/ajar+json;q=2")
        (Http.Accepts markdown "application/ajar+json;q=2")
        (negotiate (some "application/ajar+json;q=2")
          true) := by
  constructor
  · intro hSelects
    have hAccepts :=
      (hSelects.markdown.mp (by decide)).2
    exact absurd hAccepts (by decide)
  · intro hSelects
    have hAccepts := hSelects.ajarJson.mp (by decide)
    exact absurd hAccepts (by decide)

end Serving

end AjarGateway
