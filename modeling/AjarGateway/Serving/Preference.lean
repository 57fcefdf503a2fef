import AjarGateway.Serving.Negotiate
import Mathlib.Data.Multiset.Lattice

/-
  Negotiation as the strongest offer of the media ranges.

  Each comma-separated item of an Accept header offers one
  representation by itself.  A header selects the greatest
  offer of its items, so that neither the order of the items
  nor that of the header lines matters.

  Key definitions include:
    * `Serving.Representation.rank`
    * `Serving.offered`
    * `Serving.offers`

  Key theorems include:
    * `Serving.negotiateItems_eq`
    * `Serving.negotiate_eq_sup_offers`
    * `Serving.negotiate_isJoinHomomorphism`
-/

------------------------------------------------------------
-- The Order Of Representations
------------------------------------------------------------

namespace AjarGateway

namespace Serving

namespace Representation

/- Passthrough is the weakest, the signed view strongest. -/
def rank : Representation → Nat
| passthrough => 0
| markdown => 1
| ajarJson => 2

theorem rank_injective : Function.Injective rank := by
  intro first second hEq
  cases first <;> cases second <;> first | rfl | cases hEq

instance : LinearOrder Representation :=
  LinearOrder.lift' rank rank_injective

instance : BoundedOrder Representation where
  bot := passthrough
  bot_le representation := Nat.zero_le representation.rank
  top := ajarJson
  le_top representation := by
    cases representation <;> decide

end Representation

end Serving

end AjarGateway

------------------------------------------------------------
-- Offers Of Media Ranges
------------------------------------------------------------

namespace AjarGateway

namespace Serving

/- The media type of an item, in lower case. -/
def itemMediaType (item : List Char) : List Char :=
  Rust.toAsciiLowercase
    (Rust.trim ((item.splitOn ';').headD []))

/- The weight of an item. -/
def itemWeight (item : List Char) : Weight :=
  weightOf (item.splitOn ';').tail

/- The representation that one item asks for by itself. -/
def offered (item : List Char) : Representation :=
  if (itemWeight item).invalidQ ||
      (itemWeight item).q.leZero then
    .passthrough
  else if itemMediaType item = ajarJson.toList then
    .ajarJson
  else if itemMediaType item = markdown.toList then
    .markdown
  else
    .passthrough

/- The offers of the items of a header. -/
def offers (header : String) : Multiset Representation :=
  ((header.toList.splitOn ',').map offered : List _)

/- One round of the loop depends on the offer alone. -/
theorem negotiateItems_cons
    (item : List Char)
    (rest : List (List Char))
    (sawMarkdown : Bool) :
    negotiateItems (item :: rest) sawMarkdown =
      match offered item with
      | .ajarJson => .ajarJson
      | .markdown => negotiateItems rest true
      | .passthrough => negotiateItems rest sawMarkdown := by
  have hRound :
      negotiateItems (item :: rest) sawMarkdown =
        if itemMediaType item ≠ ajarJson.toList ∧
            itemMediaType item ≠ markdown.toList then
          negotiateItems rest sawMarkdown
        else if (itemWeight item).invalidQ ||
            (itemWeight item).q.leZero then
          negotiateItems rest sawMarkdown
        else if itemMediaType item = ajarJson.toList then
          .ajarJson
        else
          negotiateItems rest true := by
    rw [negotiateItems]
    rfl
  rw [hRound]
  unfold offered
  generalize ((itemWeight item).invalidQ ||
    (itemWeight item).q.leZero) = refused
  cases refused with
  | true => simp
  | false =>
      by_cases hJson : itemMediaType item = ajarJson.toList
      · simp [hJson]
      · by_cases hMarkdown :
            itemMediaType item = markdown.toList
        · have hDifferent :
              markdown.toList ≠ ajarJson.toList := by
            decide
          simp [hMarkdown, hDifferent]
        · simp [hJson, hMarkdown]

/- The loop returns the strongest offer it has seen. -/
theorem negotiateItems_eq
    (items : List (List Char))
    (sawMarkdown : Bool) :
    negotiateItems items sawMarkdown =
      max (if sawMarkdown then .markdown else .passthrough)
        (items.map offered : Multiset Representation).sup := by
  induction items generalizing sawMarkdown with
  | nil =>
      unfold negotiateItems
      cases sawMarkdown <;> rfl
  | cons item rest ih =>
      rw [negotiateItems_cons, List.map_cons, ← Multiset.cons_coe,
        Multiset.sup_cons, ← max_assoc]
      cases hOffer : offered item with
      | ajarJson =>
          have hTop :
              max (if sawMarkdown then .markdown
                  else .passthrough) .ajarJson =
                (⊤ : Representation) := by
            cases sawMarkdown <;> rfl
          rw [hTop]
          exact (top_sup_eq _).symm
      | markdown =>
          apply (ih true).trans
          cases sawMarkdown <;> rfl
      | passthrough =>
          apply (ih sawMarkdown).trans
          cases sawMarkdown <;> rfl

/- A header selects the strongest offer of its items. -/
theorem negotiate_eq_sup_offers
    (header : String) :
    negotiate (some header) true = (offers header).sup := by
  unfold negotiate offers
  simp only [Bool.not_true, Bool.false_eq_true, if_false]
  rw [negotiateItems_eq]
  exact bot_sup_eq _

/- Joined with a comma, two headers offer what each does. -/
theorem offers_append
    (first second : String) :
    offers (first ++ "," ++ second) =
      offers first + offers second := by
  have hChars :
      (first ++ "," ++ second).toList =
        first.toList ++ ',' :: second.toList := by
    simp
  unfold offers
  rw [hChars, List.splitOn_append_cons_self, List.map_append,
    Multiset.coe_add]

theorem negotiate_append
    (first second : String) :
    negotiate (some (first ++ "," ++ second)) true =
      max (negotiate (some first) true)
        (negotiate (some second) true) := by
  rw [negotiate_eq_sup_offers, negotiate_eq_sup_offers,
    negotiate_eq_sup_offers, offers_append, Multiset.sup_add]

end Serving

end AjarGateway

------------------------------------------------------------
-- Header Lines
------------------------------------------------------------

namespace AjarGateway

namespace Serving

/- What a header line selects by itself. -/
def lineSelects (line : String) : Representation :=
  negotiate (some line) true

/- Joined lines select the strongest of their selections. -/
theorem negotiate_intercalate
    (line : String)
    (lines : List String) :
    negotiate (some (",".intercalate (line :: lines))) true =
      (((line :: lines : List String) :
        Multiset String).map lineSelects).sup := by
  induction lines generalizing line with
  | nil =>
      simp [lineSelects]
  | cons next rest ih =>
      rw [String.intercalate_cons_cons, negotiate_append, ih,
        ← Multiset.cons_coe line, Multiset.map_cons,
        Multiset.sup_cons]
      rfl

/- The Accept values that a request carries and shows. -/
def readableLines
    (http : Http.HttpCrate)
    (headers : Http.HeaderMap) : Multiset String :=
  (headers.getAll .accept : Multiset Http.HeaderValue).filterMap
    http.headerValueToStr

/- The header lines count as the multiset that they are. -/
theorem negotiate_combinedAcceptHeader
    (http : Http.HttpCrate)
    (headers : Http.HeaderMap) :
    negotiate (combinedAcceptHeader http headers) true =
      ((readableLines http headers).map lineSelects).sup := by
  unfold combinedAcceptHeader readableLines
  rw [Multiset.filterMap_coe]
  cases (headers.getAll .accept).filterMap
      http.headerValueToStr with
  | nil => rfl
  | cons line lines => exact negotiate_intercalate line lines

/-
  Negotiation joins: over two headers, over the items of one
  header in any order, and over the lines of a request.
-/
theorem negotiate_isJoinHomomorphism :
    (∀ first second : String,
      negotiate (some (first ++ "," ++ second)) true =
        max (negotiate (some first) true)
          (negotiate (some second) true)) ∧
    (∀ first second : String,
      (first.toList.splitOn ',').Perm
          (second.toList.splitOn ',') →
        negotiate (some first) true =
          negotiate (some second) true) ∧
    ∀ (http : Http.HttpCrate) (headers : Http.HeaderMap),
      negotiate (combinedAcceptHeader http headers) true =
        (((headers.getAll .accept :
              Multiset Http.HeaderValue).filterMap
            http.headerValueToStr).map fun line =>
          negotiate (some line) true).sup := by
  refine ⟨negotiate_append, ?_,
    negotiate_combinedAcceptHeader⟩
  intro first second hPerm
  rw [negotiate_eq_sup_offers, negotiate_eq_sup_offers]
  unfold offers
  rw [Multiset.coe_eq_coe.mpr (hPerm.map offered)]

/- Two items in either order select the signed view. -/
theorem negotiate_isJoinHomomorphism_swapped :
    negotiate (some "text/markdown,application/ajar+json")
        true =
      negotiate (some "application/ajar+json,text/markdown")
        true :=
  negotiate_isJoinHomomorphism.2.1 _ _ (by decide)

end Serving

end AjarGateway
