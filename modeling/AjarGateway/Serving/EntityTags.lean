import AjarGateway.Serving.Reference

/-
  Entity tags within one loaded store.

  An entity tag should name one representation of a request
  target.  The two representations of a view are served with
  the same tag, so it names neither of them.

  Key definitions include:
    * `Serving.EtagsIdentify`
    * `Serving.ServesTaggedView`

  Key theorems include:
    * `Serving.etagsIdentify_iff`
-/

------------------------------------------------------------
-- Identifying Tags
------------------------------------------------------------

namespace AjarGateway

namespace Serving

open Http Store

/-
  A request for a URI that is answered from a store, in
  surroundings with a clock value of `SystemClock`.
-/
structure AsksStore
    (lib : Externals)
    (store : PreparedContentStore)
    (uri : Uri)
    (request : Request Chunks)
    (env : Surroundings)
    (target : Target) : Prop where
  uri : request.uri = uri
  snapshot : env.snapshot = some store
  range : InClockRange env.now
  target : storeTarget lib.http store request = some target

/- Two answers with the same representation. -/
def SameRepresentation
    (first second : Response Body) : Prop :=
  first.headers.getAll .contentType =
      second.headers.getAll .contentType ∧
    first.body = second.body

/-
  Two 200 answers with one entity tag have one
  representation; and when a request for exactly the tag of
  a 200 answer is answered 304, what it would have been
  served is the representation of that answer.
-/
structure EtagsIdentify
    (lib : Externals)
    (state : ProxyState)
    (store : PreparedContentStore)
    (uri : Uri) : Prop where
  same : ∀ first second env env' target target' tag,
    AsksStore lib store uri first env target →
    AsksStore lib store uri second env' target' →
    (respond lib state env first).status = 200 →
    (respond lib state env' second).status = 200 →
    (respond lib state env first).headers.getAll .etag =
      [tag] →
    (respond lib state env' second).headers.getAll .etag =
      [tag] →
      SameRepresentation (respond lib state env first)
        (respond lib state env' second)
  notModified : ∀ first second env env' target target' tag,
    AsksStore lib store uri first env target →
    AsksStore lib store uri second env' target' →
    (respond lib state env first).status = 200 →
    (respond lib state env first).headers.getAll .etag =
      [tag] →
    second.headers.getAll .ifNoneMatch = [tag] →
    (respond lib state env' second).status = 304 →
      SameRepresentation (respond lib state env first)
        (target'.content lib store env'.now)

/- A view is served for the URI, with an entity tag. -/
def ServesTaggedView
    (lib : Externals)
    (store : PreparedContentStore)
    (uri : Uri) : Prop :=
  ∃ view,
    RoutesView store uri view ∧
      (lib.http.headerValueFromStr view.view.etag).isSome

end Serving

end AjarGateway

------------------------------------------------------------
-- When Tags Identify
------------------------------------------------------------

namespace AjarGateway

namespace Serving

open Http Store

variable {lib : Externals} {state : ProxyState}
variable {store : PreparedContentStore} {uri : Uri}

/- A request of a store is answered from it. -/
theorem AsksStore.respond_eq
    {request : Request Chunks} {env : Surroundings}
    {target : Target}
    (hAsks : AsksStore lib store uri request env target)
    (hStore : state.hasStore = true) :
    respond lib state env request =
      answerFromStore lib store env.now request.headers
        target :=
  respond_of_target lib state env hStore hAsks.snapshot
    hAsks.target

/- A 200 answer is the content of its target. -/
theorem AsksStore.respond_ok
    {request : Request Chunks} {env : Surroundings}
    {target : Target}
    (hAsks : AsksStore lib store uri request env target)
    (hStore : state.hasStore = true)
    (hStatus : (respond lib state env request).status = 200) :
    respond lib state env request =
      target.content lib store env.now := by
  rw [hAsks.respond_eq hStore] at hStatus ⊢
  exact (answerFromStore_ok hStatus).2.2

/- All content of one target is one representation. -/
theorem sameRepresentation_content
    (target : Target)
    (now now' : Int) :
    SameRepresentation (target.content lib store now)
      (target.content lib store now') := by
  constructor
  · rw [target.content_contentType, target.content_contentType]
  · rw [target.content_body, target.content_body]

/-
  Without a tagged view, the tag of an answer leaves one
  target for the URI.
-/
theorem target_unique
    {first second : Request Chunks}
    {env env' : Surroundings} {target target' : Target}
    {tag : HeaderValue} {now : Int}
    (hUntagged : ¬ ServesTaggedView lib store uri)
    (hFirst : AsksStore lib store uri first env target)
    (hSecond : AsksStore lib store uri second env' target')
    (hTag :
      (target.content lib store now).headers.getAll .etag =
        [tag]) :
    target' = target := by
  rcases storeTarget_cases hFirst.target with ⟨_, hCases⟩
  rcases storeTarget_cases hSecond.target with ⟨_, hCases'⟩
  rw [hFirst.uri] at hCases
  rw [hSecond.uri] at hCases'
  rw [target.content_etag] at hTag
  rcases hCases with
    ⟨hPath, rfl⟩ | ⟨hNot, hPath, rfl⟩ | ⟨view, hView, hKind⟩
  · rcases hCases' with
      ⟨_, rfl⟩ | ⟨hOther, _, _⟩ | ⟨_, hView, _⟩
    · rfl
    · exact absurd hPath hOther
    · exact absurd hPath hView.notManifest
  · rcases hCases' with
      ⟨hOther, _⟩ | ⟨_, _, rfl⟩ | ⟨_, hView, _⟩
    · exact absurd hOther hNot
    · rfl
    · exact absurd hPath hView.notIndex
  · exfalso
    refine hUntagged ⟨view, hView, ?_⟩
    have hEtag : target.etag store = view.view.etag := by
      rcases hKind with rfl | rfl <;> rfl
    rw [hEtag] at hTag
    cases hValue :
        lib.http.headerValueFromStr view.view.etag with
    | none => simp [hValue] at hTag
    | some value => rfl

/- The two representations of a tagged view differ. -/
theorem not_etagsIdentify
    (hReads : lib.http.ReadsVisibleAscii)
    (hStore : state.hasStore = true)
    {path : Path}
    (hLoaded : WasLoaded lib.json path store)
    (hTagged : ServesTaggedView lib store uri) :
    ¬ EtagsIdentify lib state store uri := by
  rcases hTagged with ⟨view, hView, hTag⟩
  rcases Option.isSome_iff_exists.mp hTag with ⟨tag, hTag⟩
  rcases hLoaded.fresh with ⟨now, hRange, hFresh⟩
  intro hIdentify
  let env : Surroundings :=
    { (default : Surroundings) with
      snapshot := some store
      now := now }
  rcases storeTarget_acceptRequest hReads hView with
    ⟨hJsonTarget, hMarkdownTarget⟩
  have hJson :
      AsksStore lib store uri (acceptRequest uri ajarJson)
        env (.viewJson view) :=
    ⟨rfl, rfl, hRange, hJsonTarget⟩
  have hMarkdown :
      AsksStore lib store uri (acceptRequest uri markdown)
        env (.viewMarkdown view) :=
    ⟨rfl, rfl, hRange, hMarkdownTarget⟩
  have hAnswer {request : Request Chunks} {target : Target}
      (hAsks : AsksStore lib store uri request env target)
      (hHeaders : request.headers.getAll .ifNoneMatch = []) :
      respond lib state env request =
        target.content lib store now := by
    rw [hAsks.respond_eq hStore]
    exact answerFromStore_of_fresh hFresh
      (by simp [ifNoneMatchMatches, hHeaders])
  have hJsonAnswer := hAnswer hJson rfl
  have hMarkdownAnswer := hAnswer hMarkdown rfl
  have hSame := hIdentify.same _ _ _ _ _ _ tag hJson
    hMarkdown (by rw [hJsonAnswer, Target.content_status])
    (by rw [hMarkdownAnswer, Target.content_status])
    (by rw [hJsonAnswer, Target.content_etag, Target.etag,
      hTag]; rfl)
    (by rw [hMarkdownAnswer, Target.content_etag,
      Target.etag, hTag]; rfl)
  have hTypes := hSame.1
  rw [hJsonAnswer, hMarkdownAnswer,
    Target.content_contentType, Target.content_contentType]
    at hTypes
  have hDiffer :
      HeaderValue.fromStatic ajarJson ≠
        .fromStatic "text/markdown; charset=utf-8" := by
    decide
  exact hDiffer (List.singleton_inj.mp hTypes)

/-
  For every loaded store and every URI, entity tags identify
  representations exactly when no view is served for the URI
  with an entity tag.
-/
theorem etagsIdentify_iff
    (hReads : lib.http.ReadsVisibleAscii)
    (hStore : state.hasStore = true)
    {path : Path}
    (hLoaded : WasLoaded lib.json path store) :
    EtagsIdentify lib state store uri ↔
      ¬ ServesTaggedView lib store uri := by
  constructor
  · intro hIdentify hTagged
    exact not_etagsIdentify hReads hStore hLoaded hTagged
      hIdentify
  · intro hUntagged
    constructor
    · intro first second env env' target target' tag hFirst
        hSecond hOk hOk' hTag _
      rw [hFirst.respond_ok hStore hOk] at hTag ⊢
      rw [hSecond.respond_ok hStore hOk',
        target_unique hUntagged hFirst hSecond hTag]
      exact sameRepresentation_content target _ _
    · intro first second env env' target target' tag hFirst
        hSecond hOk hTag _ _
      rw [hFirst.respond_ok hStore hOk] at hTag ⊢
      rw [target_unique hUntagged hFirst hSecond hTag]
      exact sameRepresentation_content target _ _

/- The view index of the sample store has its own tag. -/
theorem etagsIdentify_iff_sample :
    EtagsIdentify sampleExt sampleState (samplePage "Old")
      viewsTarget := by
  have hLoaded :
      WasLoaded sampleExt.json sampleDir
        (samplePage "Old") :=
    ⟨_, _, sampleNow_inClockRange, samplePage_old_loads⟩
  apply (etagsIdentify_iff reference_readsVisibleAscii rfl
    hLoaded).mpr
  rintro ⟨_, hView, _⟩
  exact hView.notIndex (by decide)

/- The sample page is served twice with the tag `"v1"`. -/
theorem etagsIdentify_view_shared :
    loadFrom sampleExt.json sampleDir (samplePageFiles "Old")
        sampleNow =
      .ok (samplePage "Old") ∧
    ¬ EtagsIdentify sampleExt sampleState (samplePage "Old")
      pageTarget := by
  refine ⟨samplePage_old_loads, ?_⟩
  exact not_etagsIdentify reference_readsVisibleAscii rfl
    ⟨_, _, sampleNow_inClockRange, samplePage_old_loads⟩
    ⟨_, pageTarget_routes "Old", by decide⟩

end Serving

end AjarGateway
