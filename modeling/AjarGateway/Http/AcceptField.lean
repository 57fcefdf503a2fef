import AjarGateway.Rust.Std

/-
  An Accept field read by the grammar of HTTP.

  Elements are separated by commas and parameters by
  semicolons, outside quoted strings only.  A weight is a
  number from 0 to 1 with at most three decimals.

  Key definitions include:
    * `Http.splitOutsideQuotes`
    * `Http.isQvalue`
    * `Http.Accepts`

  Key theorems include:
    * `Http.splitOutsideQuotes_of_no_quote`
-/

------------------------------------------------------------
-- Quoted Strings
------------------------------------------------------------

namespace Http

/- Where a reader stands with respect to quoted strings. -/
inductive QuoteState where
  | plain
  | quoted
  | escaped
  deriving DecidableEq, Repr

/- A backslash quotes the next character of a string. -/
def QuoteState.next : QuoteState → Char → QuoteState
| plain, c => if c = '"' then quoted else plain
| quoted, c =>
    if c = '"' then plain
    else if c = '\\' then escaped
    else quoted
| escaped, _ => quoted

def splitFrom
    (separator : Char) : QuoteState → List Char → List (List Char)
| _, [] => [[]]
| state, c :: rest =>
    if state = .plain ∧ c = separator then
      [] :: splitFrom separator .plain rest
    else
      (splitFrom separator (state.next c) rest).modifyHead
        (c :: ·)

/- The parts of a text between unquoted separators. -/
def splitOutsideQuotes
    (separator : Char)
    (text : List Char) : List (List Char) :=
  splitFrom separator .plain text

example :
    splitOutsideQuotes ',' "a=\",\",b".toList =
      ["a=\",\"".toList, "b".toList] := by
  decide

/- Without quotes every separator separates. -/
theorem splitOutsideQuotes_of_no_quote
    (separator : Char)
    (text : List Char)
    (hNoQuote : '"' ∉ text) :
    splitOutsideQuotes separator text =
      text.splitOn separator := by
  unfold splitOutsideQuotes
  induction text with
  | nil => rfl
  | cons c rest ih =>
      have hPlain : c ≠ '"' :=
        fun hEq => hNoQuote (hEq ▸ List.mem_cons_self)
      have hRest := ih fun hMem =>
        hNoQuote (List.mem_cons_of_mem _ hMem)
      rw [splitFrom, List.splitOn_cons_eq_if_modifyHead]
      simp [QuoteState.next, hPlain, hRest]

end Http

------------------------------------------------------------
-- Weights
------------------------------------------------------------

namespace Http

/- `0` or `1`, and at most three decimals; none above 1. -/
def isQvalue : List Char → Bool
| ['0'] => true
| ['1'] => true
| '0' :: '.' :: decimals =>
    decimals.length ≤ 3 && decimals.all Char.isDigit
| '1' :: '.' :: decimals =>
    decimals.length ≤ 3 && decimals.all (· == '0')
| _ => false

/- Some digit of a weight is not zero. -/
def qvaluePositive (text : List Char) : Bool :=
  text.any fun c => c.isDigit && c != '0'

end Http

------------------------------------------------------------
-- Elements
------------------------------------------------------------

namespace Http

/- The optional whitespace between tokens. -/
def isOws (c : Char) : Bool :=
  c == ' ' || c == '\t'

def trimOws (text : List Char) : List Char :=
  Rust.trimMatches isOws text

/- The media type of an element, in lower case. -/
def elementType (element : List Char) : List Char :=
  Rust.toAsciiLowercase
    (trimOws ((splitOutsideQuotes ';' element).headD []))

/- The value of a parameter that is named `q`. -/
def weightParameter (parameter : List Char) : Option (List Char) :=
  let text := trimOws parameter
  let name := trimOws (text.takeWhile (· ≠ '='))
  let value := trimOws ((text.dropWhile (· ≠ '=')).drop 1)
  if Rust.eqIgnoreAsciiCase name ['q'] then some value
  else none

def elementWeights (element : List Char) : List (List Char) :=
  (splitOutsideQuotes ';' element).tail.filterMap
    weightParameter

/- No weight, or one weight that is valid and above zero. -/
def weightAccepted : List (List Char) → Bool
| [] => true
| [weight] => isQvalue weight && qvaluePositive weight
| _ => false

/- Some element of the field accepts a media type. -/
def Accepts (mediaType : String) (field : String) : Prop :=
  ∃ element ∈ splitOutsideQuotes ',' field.toList,
    elementType element = mediaType.toList ∧
      weightAccepted (elementWeights element) = true

instance
    (mediaType field : String) :
    Decidable (Accepts mediaType field) := by
  unfold Accepts
  infer_instance

end Http
