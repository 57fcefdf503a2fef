import AjarGateway.Http.Url
import AjarGateway.Serving.Transparency

/-
  Whether the published view index is reachable.

  The manifest names the view index by a URL.  A client that
  follows it sends the path and the query of the URL, while
  the router compares the path of a request with the text of
  the whole URL.

  Key definitions include:
    * `Serving.IndexReachable`
    * `Serving.IndexRouted`

  Key theorems include:
    * `Serving.indexReachable_iff`
-/

------------------------------------------------------------
-- Requests For The Index
------------------------------------------------------------

namespace AjarGateway

namespace Serving

open Http Store

/- The answer holds exactly the bytes of the view index. -/
def ServesIndex
    (store : PreparedContentStore)
    (answer : Response Body) : Prop :=
  answer.status = 200 ∧
    answer.body = .ofBytes store.viewIndex.bytes

/-
  An unconditional GET request for the target that is sent
  for a resource, while a store is installed and has not
  expired.
-/
structure AsksResource
    (store : PreparedContentStore)
    (resource : Resource)
    (env : Surroundings)
    (request : Request Chunks) : Prop where
  snapshot : env.snapshot = some store
  fresh : env.now < store.manifest.expiresAtUnix
  isGet : request.method = .get
  unconditional : request.headers.getAll .ifNoneMatch = []
  sent : request.uri.pathAndQuery = some resource.originForm

/- Whoever follows a URL to the index gets the index. -/
def IndexReachable
    (lib : Externals)
    (state : ProxyState)
    (store : PreparedContentStore)
    (reference : UrlReference) : Prop :=
  ∀ env request,
    AsksResource store reference.resource env request →
      ServesIndex store (respond lib state env request)

/-
  The router finds the index at the path that is sent for
  the URL; or it finds a manifest with the same bytes.
-/
def IndexRouted
    (store : PreparedContentStore)
    (reference : UrlReference) : Prop :=
  if String.ofList reference.resource.sentPath =
      manifestPath then
    store.manifest.bytes = store.viewIndex.bytes
  else
    reference.IsPlainPath

variable {lib : Externals} {state : ProxyState}
variable {store : PreparedContentStore}
variable {resource : Resource} {env : Surroundings}
variable {request : Request Chunks}

/- The path of a request for a resource. -/
theorem AsksResource.path
    (hAsks : AsksResource store resource env request) :
    request.uri.path = String.ofList resource.sentPath := by
  have hTarget : ∀ target : PathAndQuery,
      target.text = resource.originForm →
        target.path = String.ofList resource.sentPath := by
    intro target hText
    have hNonempty : resource.sentPath.isEmpty = false := by
      cases hPath : resource.sentPath with
      | nil =>
          have hHead := resource.sentPath_head
          rw [hPath] at hHead
          cases hHead
      | cons c rest => rfl
    unfold PathAndQuery.path
    rw [hText, Resource.originForm_toList,
      ← Resource.sentPath_eq_takeWhile]
    simp [hNonempty]
  have hSent := hAsks.sent
  cases hUri : request.uri with
  | origin target =>
      rw [hUri] at hSent
      exact hTarget target (Option.some.inj hSent)
  | absolute scheme host target =>
      rw [hUri] at hSent
      exact hTarget target (Option.some.inj hSent)
  | authority host =>
      rw [hUri] at hSent
      cases hSent
  | asterisk =>
      rw [hUri] at hSent
      have hHead := resource.originChars_head
      have hStar := congrArg String.toList (Option.some.inj hSent)
      rw [Resource.originForm_toList] at hStar
      rw [← hStar] at hHead
      exact absurd hHead (by decide)

/- What a request for a target of the store is answered. -/
theorem AsksResource.servesIndex_iff
    {target : Target}
    (hAsks : AsksResource store resource env request)
    (hStore : state.hasStore = true)
    (hTarget :
      storeTarget lib.http store request = some target) :
    ServesIndex store (respond lib state env request) ↔
      target.bytes store = store.viewIndex.bytes := by
  rw [respond_of_target lib state env hStore hAsks.snapshot
      hTarget,
    answerFromStore_of_fresh hAsks.fresh
      (by simp [ifNoneMatchMatches, hAsks.unconditional]),
    ServesIndex, target.content_status, target.content_body,
    Body.ofBytes, Body.ofBytes, Body.chunks.injEq,
    List.singleton_inj]
  exact and_iff_right rfl

/- A client of a store, whose origin does not answer. -/
def lonelyEnv (store : PreparedContentStore) : Surroundings :=
  { (default : Surroundings) with
    snapshot := some store
    now := store.manifest.expiresAtUnix - 1 }

/- The target that is sent for a resource. -/
def resourceTarget (resource : Resource) : Uri :=
  .origin {
    text := resource.originForm
    starts := by
      left
      rw [Resource.originForm_toList,
        resource.originChars_head]
    noFragment := by
      rw [Resource.originForm_toList]
      exact resource.originChars_noFragment }

/- A request without any header, for a resource. -/
theorem resourceTarget_asks
    (store : PreparedContentStore)
    (resource : Resource) :
    AsksResource store resource (lonelyEnv store)
      (getRequest (resourceTarget resource) .empty) where
  snapshot := rfl
  fresh := Int.sub_one_lt_of_le (le_refl _)
  isGet := rfl
  unconditional := rfl
  sent := rfl

/- Such a request is not answered if it is not routed. -/
theorem not_servesIndex_of_passed
    (hStore : state.hasStore = true)
    (hTarget :
      storeTarget lib.http store request = none) :
    ¬ServesIndex store
      (respond lib state (lonelyEnv store) request) := by
  rw [respond_of_no_target lib state (lonelyEnv store) hStore
    rfl hTarget]
  have hFails : ∀ error : ProxyHttpError,
      ¬ServesIndex store error.intoResponse := by
    rintro error ⟨hStatus, -⟩
    cases error <;> exact absurd hStatus (by decide)
  unfold answerFromOrigin
  cases buildUpstreamRequest lib state.config request with
  | error error => exact hFails error
  | ok upstream => exact hFails .upstream

/-
  For every store and every way to name its index by a URL,
  following the URL answers 200 with the bytes of the index
  exactly when the URL is a plain path; at the path of the
  manifest, exactly when both have the same bytes.
-/
theorem indexReachable_iff
    {reference : UrlReference}
    (hStore : state.hasStore = true)
    (hIndex : store.manifest.viewsIndex = reference.text) :
    IndexReachable lib state store reference ↔
      IndexRouted store reference := by
  unfold IndexRouted
  split
  · rename_i hManifest
    constructor
    · intro hReachable
      have hAsks :=
        resourceTarget_asks store reference.resource
      exact (hAsks.servesIndex_iff hStore
        (storeTarget_of_manifest hAsks.isGet
          (hAsks.path.trans hManifest))).mp
        (hReachable _ _ hAsks)
    · intro hBytes env request hAsks
      exact (hAsks.servesIndex_iff hStore
        (storeTarget_of_manifest hAsks.isGet
          (hAsks.path.trans hManifest))).mpr hBytes
  · rename_i hManifest
    rw [← reference.text_eq_sentPath_iff]
    constructor
    · intro hReachable
      by_contra hOther
      have hAsks :=
        resourceTarget_asks store reference.resource
      have hPassed :
          storeTarget lib.http store
              (getRequest (resourceTarget reference.resource)
                .empty) =
            none := by
        apply (storeTarget_eq_none_iff _ _ _).mpr
        refine ⟨?_, ?_, .inr (.inr rfl)⟩
        · rintro ⟨-, hAt⟩
          exact hManifest (hAsks.path.symm.trans hAt)
        · rintro ⟨-, hAt⟩
          rw [hAsks.path, hIndex] at hAt
          exact hOther hAt.symm
      exact not_servesIndex_of_passed hStore hPassed
        (hReachable _ _ hAsks)
    · intro hText env request hAsks
      have hPath := hAsks.path
      exact (hAsks.servesIndex_iff hStore
        (storeTarget_of_index hAsks.isGet
          (by rwa [hPath])
          (by rw [hPath, hIndex, hText]))).mpr rfl

/- The plain path that the sample manifest names. -/
def viewsReference : UrlReference :=
  .relative {
    path := "/views".toList
    query := none
    fragment := none
    path_form := .inr rfl
    path_free := ⟨by decide, by decide⟩
    query_free := by
      intro text hText
      cases hText } (by decide)

/- The index of the sample page is reachable. -/
theorem indexReachable_iff_sample :
    IndexReachable sampleExt sampleState (samplePage "Old")
      viewsReference := by
  apply (indexReachable_iff rfl (by decide)).mpr
  unfold IndexRouted
  rw [if_neg (by decide)]
  exact ⟨rfl, rfl⟩

/- A manifest that names the index by a path and a query. -/
def queryPage : Page where
  index := "/views?page=1"
  sequenceText := "1"
  sequence := 1
  url := "/page"
  etag := "\"v1\""
  sig := "v1"
  heading := "Old"

def queryReference : UrlReference :=
  .relative {
    path := "/views".toList
    query := some "page=1".toList
    fragment := none
    path_form := .inr rfl
    path_free := ⟨by decide, by decide⟩
    query_free := by
      intro text hText
      cases hText
      decide } (by decide)

/- It is loaded, and its index is not reachable. -/
theorem indexReachable_query :
    loadFrom (documentExt queryPage.documents).json sampleDir
        queryPage.files sampleNow =
      .ok (queryPage.store "/page") ∧
    (queryPage.store "/page").manifest.viewsIndex =
      queryReference.text ∧
    ¬IndexReachable (documentExt queryPage.documents)
      sampleState (queryPage.store "/page")
      queryReference := by
  have hIndex :
      (queryPage.store "/page").manifest.viewsIndex =
        queryReference.text := by
    decide
  refine ⟨Page.loads_documents (by decide)
    (by decide) (by decide) (by decide) _
    (by decide), hIndex, ?_⟩
  intro hReachable
  have hAsks :=
    resourceTarget_asks (queryPage.store "/page")
      queryReference.resource
  have hPassed :
      storeTarget (documentExt queryPage.documents).http
          (queryPage.store "/page")
          (getRequest (resourceTarget queryReference.resource)
            .empty) =
        none := by
    apply (storeTarget_eq_none_iff _ _ _).mpr
    refine ⟨?_, ?_, .inr (.inr rfl)⟩
    · rintro ⟨-, hAt⟩
      exact absurd hAt (by decide)
    · rintro ⟨-, hAt⟩
      exact absurd hAt (by decide)
  exact not_servesIndex_of_passed rfl hPassed
    (hReachable _ _ hAsks)

end Serving

end AjarGateway
