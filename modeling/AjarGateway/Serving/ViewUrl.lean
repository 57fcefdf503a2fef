import AjarGateway.Http.Url
import AjarGateway.Serving.Negotiate

/-
  The request target of a view URL.

  A view is stored under what follows the first slash after
  the scheme of its URL.  That is the target a client sends
  for the URL when the first slash begins the path and no
  fragment follows.

  Key definitions include:
    * `Serving.TargetAgrees`
    * `Serving.StoredUnderOwnTarget`

  Key theorems include:
    * `Serving.requestTargetFromViewUrl_text`
    * `Serving.storedUnderOwnTarget_iff`
-/

------------------------------------------------------------
-- The Stored Target
------------------------------------------------------------

namespace AjarGateway

namespace Serving

open Http Store

/- What begins at the first slash of a text. -/
def fromSlash (text : List Char) : List Char :=
  text.dropWhile (· ≠ '/')

theorem fromSlash_append
    (front text : List Char)
    (hFree : '/' ∉ front) :
    fromSlash (front ++ text) = fromSlash text := by
  have hFront : front.dropWhile (· ≠ '/') = [] := by
    rw [List.dropWhile_eq_nil_iff]
    intro c hMem
    exact decide_eq_true (fun hEq => hFree (hEq ▸ hMem))
  unfold fromSlash
  rw [List.dropWhile_append, hFront]
  rfl

theorem fromSlash_of_head
    {text : List Char}
    (hHead : text.head? = some '/') :
    fromSlash text = text := by
  cases text with
  | nil => rfl
  | cons c rest =>
      cases hHead
      rfl

theorem fromSlash_eq_nil_iff
    (text : List Char) :
    fromSlash text = [] ↔ '/' ∉ text := by
  unfold fromSlash
  rw [List.dropWhile_eq_nil_iff]
  constructor
  · intro hAll hMem
    exact absurd (hAll _ hMem) (by decide)
  · intro hFree c hMem
    exact decide_eq_true (fun hEq => hFree (hEq ▸ hMem))

/- The characters of the target a URL is stored under. -/
def storedChars (resource : Resource) : List Char :=
  if fromSlash resource.chars = [] then ['/']
  else fromSlash resource.chars

/- A view URL with a scheme is accepted, and cut there. -/
theorem requestTargetFromViewUrl_text
    (url : HttpUrl) :
    requestTargetFromViewUrl url.text =
      .ok (String.ofList (storedChars url.toResource)) := by
  have hStrip :
      (Rust.stripPrefix "http://".toList url.chars).orElse
          (fun _ => Rust.stripPrefix "https://".toList
            url.chars) =
        some url.rest := by
    unfold HttpUrl.chars
    cases url.scheme with
    | http => rfl
    | https => rfl
  have hTarget :
      url.rest.dropWhile (· ≠ '/') =
        fromSlash url.toResource.chars :=
    fromSlash_append _ _ url.authority_free.1
  have hHead : url.chars.head? = some 'h' := by
    unfold HttpUrl.chars
    cases url.scheme <;> rfl
  have hNonempty : url.chars.isEmpty = false := by
    cases hText : url.chars with
    | nil =>
        rw [hText] at hHead
        cases hHead
    | cons c rest => rfl
  unfold requestTargetFromViewUrl storedChars
  simp only [HttpUrl.text_toList, hNonempty, hHead, hStrip,
    hTarget]
  by_cases hNil : fromSlash url.toResource.chars = []
  · simp [hNil]
  · simp [hNil]

end Serving

end AjarGateway

------------------------------------------------------------
-- Agreement With The Sent Target
------------------------------------------------------------

namespace AjarGateway

namespace Serving

open Http Store

/-
  When the stored target is the one that is sent: the path
  is there and no fragment is; or there is nothing to send
  and no slash follows the authority; or the fragment, from
  its first slash on, happens to spell the sent target.
-/
inductive TargetAgrees (resource : Resource) : Prop
  | path
      (hPath : resource.path ≠ [])
      (hFragment : resource.fragment = none)
  | bare
      (hPath : resource.path = [])
      (hQuery : resource.query = none)
      (hFragment : '/' ∉ resource.fragment.getD [])
  | coincidence
      (hPath : resource.path = [])
      (hQuery : ∀ text ∈ resource.query, '/' ∉ text)
      (hFragment :
        fromSlash (resource.fragment.getD []) =
          resource.originChars)

variable {resource : Resource}

/- With a path, the fragment is stored too. -/
theorem storedChars_of_path
    (hPath : resource.path ≠ []) :
    storedChars resource =
      resource.originChars ++ marked '#' resource.fragment := by
  have hHead : resource.chars.head? = some '/' := by
    unfold Resource.chars
    rw [List.append_assoc, List.head?_append,
      resource.path_form.resolve_left hPath]
    rfl
  have hNonempty : resource.chars ≠ [] := by
    intro hNil
    rw [hNil] at hHead
    cases hHead
  unfold storedChars
  rw [fromSlash_of_head hHead, if_neg hNonempty]
  unfold Resource.chars Resource.originChars Resource.sentPath
  rw [if_neg hPath]

/- A slash of the query is taken for the path. -/
theorem storedChars_ne_of_query
    {text : List Char}
    (hPath : resource.path = [])
    (hQuery : resource.query = some text)
    (hSlash : '/' ∈ text) :
    storedChars resource ≠ resource.originChars := by
  have hTail : fromSlash text ≠ [] := fun hNil =>
    (fromSlash_eq_nil_iff text).mp hNil hSlash
  have hChars :
      fromSlash resource.chars =
        fromSlash text ++ marked '#' resource.fragment := by
    have hCut : resource.chars =
        ['?'] ++ (text ++ marked '#' resource.fragment) := by
      unfold Resource.chars
      rw [hPath, hQuery]
      rfl
    rw [hCut, fromSlash_append _ _ (by decide)]
    unfold fromSlash at hTail ⊢
    rw [List.dropWhile_append,
      if_neg (by rwa [List.isEmpty_iff])]
  have hOrigin : resource.originChars = '/' :: '?' :: text := by
    unfold Resource.originChars Resource.sentPath
    rw [if_pos hPath, hQuery]
    rfl
  have hNonempty : fromSlash resource.chars ≠ [] := by
    rw [hChars]
    exact List.append_ne_nil_of_left_ne_nil hTail _
  unfold storedChars
  rw [if_neg hNonempty, hChars]
  intro hEq
  cases hFragment : resource.fragment with
  | none =>
      rw [hFragment, marked_none, List.append_nil, hOrigin] at hEq
      have hLength :=
        (List.dropWhile_suffix (· ≠ '/') (l := text)).length_le
      unfold fromSlash at hEq
      rw [hEq, List.length_cons, List.length_cons] at hLength
      omega
  | some fragment =>
      apply resource.originChars_noFragment
      rw [← hEq, hFragment]
      simp

/- Without a slash in the query the fragment decides. -/
theorem storedChars_of_no_path
    (hPath : resource.path = [])
    (hQuery : ∀ text ∈ resource.query, '/' ∉ text) :
    fromSlash resource.chars =
      fromSlash (resource.fragment.getD []) := by
  have hFree : '/' ∉ marked '?' resource.query := by
    cases hText : resource.query with
    | none => exact List.not_mem_nil
    | some text =>
        rw [marked_some, List.mem_cons]
        rintro (hMark | hMem)
        · exact absurd hMark (by decide)
        · exact hQuery text hText hMem
  unfold Resource.chars
  rw [hPath, List.nil_append, fromSlash_append _ _ hFree]
  cases resource.fragment with
  | none => rfl
  | some fragment => rfl

/- The stored target is the sent one in these cases only. -/
theorem storedChars_eq_iff
    (resource : Resource) :
    storedChars resource = resource.originChars ↔
      TargetAgrees resource := by
  by_cases hPath : resource.path = []
  · by_cases hQuery : ∀ text ∈ resource.query, '/' ∉ text
    · have hTail := storedChars_of_no_path hPath hQuery
      unfold storedChars
      rw [hTail]
      by_cases hNil :
          fromSlash (resource.fragment.getD []) = []
      · have hFree := (fromSlash_eq_nil_iff _).mp hNil
        rw [if_pos hNil]
        unfold Resource.originChars Resource.sentPath
        rw [if_pos hPath]
        constructor
        · intro hEq
          refine .bare hPath ?_ hFree
          cases hText : resource.query with
          | none => rfl
          | some text => simp [hText] at hEq
        · intro hAgrees
          cases hAgrees with
          | path hSome _ => exact absurd hPath hSome
          | bare _ hNone _ => simp [hNone]
          | coincidence _ _ hSpelt =>
              have hHead := resource.originChars_head
              rw [← hSpelt, hNil] at hHead
              cases hHead
      · rw [if_neg hNil]
        refine ⟨.coincidence hPath hQuery, fun hAgrees => ?_⟩
        cases hAgrees with
        | path hSome _ => exact absurd hPath hSome
        | bare _ _ hFree =>
            exact absurd ((fromSlash_eq_nil_iff _).mpr hFree)
              hNil
        | coincidence _ _ hSpelt => exact hSpelt
    · push Not at hQuery
      rcases hQuery with ⟨text, hText, hSlash⟩
      apply iff_of_false
        (storedChars_ne_of_query hPath hText hSlash)
      intro hAgrees
      cases hAgrees with
      | path hSome _ => exact hSome hPath
      | bare _ hNone _ =>
          rw [hNone] at hText
          cases hText
      | coincidence _ hFree _ => exact hFree text hText hSlash
  · rw [storedChars_of_path hPath, List.append_right_eq_self]
    constructor
    · intro hNil
      refine .path hPath ?_
      cases hFragment : resource.fragment with
      | none => rfl
      | some fragment =>
          rw [hFragment] at hNil
          cases hNil
    · intro hAgrees
      cases hAgrees with
      | path _ hNone => rw [hNone, marked_none]
      | bare hNone _ _ => exact absurd hNone hPath
      | coincidence hNone _ _ => exact absurd hNone hPath

end Serving

end AjarGateway

------------------------------------------------------------
-- A View Under Its Own Target
------------------------------------------------------------

namespace AjarGateway

namespace Serving

open Http Store

/-
  A view with this URL is stored under the target that is
  sent for the URL: the one a request to it is looked up
  under, and no URL with another path has.
-/
structure StoredUnderOwnTarget (url : HttpUrl) : Prop where
  sent :
    requestTargetFromViewUrl url.text =
      .ok url.toResource.originForm
  lookedUp : ∀ uri : Uri,
    uri.pathAndQuery = some url.toResource.originForm →
      requestTargetFromViewUrl url.text =
        .ok (requestTarget uri)
  own : ∀ other : Resource,
    requestTargetFromViewUrl url.text =
        .ok other.originForm →
      other.sentPath = url.toResource.sentPath

theorem storedUnderOwnTarget_iff
    (url : HttpUrl) :
    StoredUnderOwnTarget url ↔ TargetAgrees url.toResource := by
  have hStored := requestTargetFromViewUrl_text url
  rw [← storedChars_eq_iff]
  constructor
  · intro hOwn
    have hSent := hStored.symm.trans hOwn.sent
    exact String.ofList_injective (Except.ok.inj hSent)
  · intro hAgrees
    rw [hAgrees] at hStored
    refine ⟨hStored, ?_, ?_⟩
    · intro uri hUri
      unfold requestTarget
      rw [hUri]
      exact hStored
    · intro other hOther
      have hSame :=
        String.ofList_injective
          (Except.ok.inj (hStored.symm.trans hOther))
      rw [Resource.sentPath_eq_takeWhile,
        Resource.sentPath_eq_takeWhile, hSame]

/- A slash in the query of a URL without a path. -/
def slashQueryUrl : HttpUrl where
  path := []
  query := some "next=/other".toList
  fragment := none
  path_form := .inl rfl
  path_free := ⟨by decide, by decide⟩
  query_free := by
    intro text hText
    cases hText
    decide
  scheme := .http
  authority := "example.com".toList
  authority_free := ⟨by decide, by decide, by decide⟩

/- Its view is stored under the path of another URL. -/
theorem storedUnderOwnTarget_slashQuery :
    requestTargetFromViewUrl slashQueryUrl.text =
        .ok "/other" ∧
      ¬StoredUnderOwnTarget slashQueryUrl := by
  have hStored :
      requestTargetFromViewUrl slashQueryUrl.text =
        .ok "/other" := by
    decide
  refine ⟨hStored, fun hOwn => ?_⟩
  have hSame := Except.ok.inj (hStored.symm.trans hOwn.sent)
  exact absurd hSame (by decide)

end Serving

end AjarGateway
