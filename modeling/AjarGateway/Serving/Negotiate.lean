import AjarGateway.Http.Message
import AjarGateway.Store.Prepared

/-
  Content negotiation for a same-URL view request.

  Everything here is a pure function of the request headers
  and of the stored view: which representation an Accept
  header selects, the text of the markdown representation,
  and the target a request is looked up under.

  Key definitions include:
    * `Serving.negotiate`
    * `Serving.combinedAcceptHeader`
    * `Serving.renderMarkdown`
    * `Serving.requestTarget`
-/

------------------------------------------------------------
-- Media Ranges
------------------------------------------------------------

namespace AjarGateway

namespace Serving

def ajarJson : String :=
  "application/ajar+json"

def markdown : String :=
  "text/markdown"

/- Negotiated response representation of a view request. -/
inductive Representation where
  | ajarJson
  | markdown
  | passthrough
  deriving DecidableEq, Repr

/- `splitn(2, '=')`: the parts around the first equals. -/
def splitPair (text : List Char) : List Char × List Char :=
  (text.takeWhile (· ≠ '='),
    (text.dropWhile (· ≠ '=')).drop 1)

/- The weight read so far, and whether one was invalid. -/
structure Weight where
  q : Rust.F32
  invalidQ : Bool
  deriving DecidableEq, Repr

/- One parameter of a media range; others than `q` pass. -/
def readParameter
    (weight : Weight)
    (parameter : List Char) : Weight :=
  let pair := splitPair (Rust.trim parameter)
  let name := Rust.trim pair.1
  let value :=
    Rust.trimMatches (· == '"') (Rust.trim pair.2)
  if Rust.eqIgnoreAsciiCase name ['q'] then
    match Rust.parseF32 value with
    | some parsed => { weight with q := parsed }
    | none => { weight with invalidQ := true }
  else
    weight

/- The weight of a media range: its last `q` wins. -/
def weightOf (parameters : List (List Char)) : Weight :=
  parameters.foldl readParameter ⟨.one, false⟩

end Serving

end AjarGateway

------------------------------------------------------------
-- Negotiation
------------------------------------------------------------

namespace AjarGateway

namespace Serving

/-
  The loop over the media ranges.  The first acceptable
  signed view ends it; markdown only wins at its end.
-/
def negotiateItems :
    List (List Char) → Bool → Representation
| [], sawMarkdown =>
    if sawMarkdown then .markdown else .passthrough
| item :: rest, sawMarkdown =>
    let parts := item.splitOn ';'
    let mediaType :=
      Rust.toAsciiLowercase (Rust.trim (parts.headD []))
    if mediaType ≠ ajarJson.toList ∧
        mediaType ≠ markdown.toList then
      negotiateItems rest sawMarkdown
    else
      let weight := weightOf parts.tail
      if weight.invalidQ || weight.q.leZero then
        negotiateItems rest sawMarkdown
      else if mediaType = ajarJson.toList then
        .ajarJson
      else
        negotiateItems rest true

def negotiate
    (acceptHeader : Option String)
    (hasView : Bool) : Representation :=
  if !hasView then
    .passthrough
  else
    match acceptHeader with
    | none => .passthrough
    | some header =>
        negotiateItems (header.toList.splitOn ',') false

example :
    negotiate
        (some "text/markdown;q=1, application/ajar+json;q=0.1")
        true =
      .ajarJson := by
  decide

/- All readable Accept values as one list. -/
def combinedAcceptHeader
    (http : Http.HttpCrate)
    (headers : Http.HeaderMap) : Option String :=
  let values :=
    (headers.getAll .accept).filterMap http.headerValueToStr
  if values.isEmpty then
    none
  else
    some (",".intercalate values)

/- One readable Accept value is the combined value. -/
theorem combinedAcceptHeader_single
    {http : Http.HttpCrate}
    (hReads : http.ReadsVisibleAscii)
    {headers : Http.HeaderMap}
    (text : String)
    (hVisible : ∀ c ∈ text.toList,
      Http.isVisibleChar c = true)
    (hAccept :
      headers.getAll .accept = [.fromStatic text]) :
    combinedAcceptHeader http headers = some text := by
  simp [combinedAcceptHeader, hAccept,
    hReads.text text hVisible]

end Serving

end AjarGateway

------------------------------------------------------------
-- Views
------------------------------------------------------------

namespace AjarGateway

namespace Serving

/- The markdown lines of one chunk. -/
def renderChunk (chunk : Store.ViewChunk) : String :=
  match chunk.chunkType with
  | "heading" => "## " ++ chunk.content
  | "paragraph" | "list" | "table" => chunk.content
  | _ => chunk.content

def renderMarkdown (view : Store.StoredView) : String :=
  "\n\n".intercalate (view.view.chunks.map renderChunk)

def requestTarget (uri : Http.Uri) : String :=
  match uri.pathAndQuery with
  | some value => value
  | none => "/"

end Serving

end AjarGateway
