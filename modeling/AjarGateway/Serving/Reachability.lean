import AjarGateway.Serving.Reference

/-
  Whether a stored view is served at its own target.

  Requests are routed by their path to the manifest and to
  the view index before the views are looked up.  A view
  whose target has one of these two paths is not reached.

  Key definitions include:
    * `Serving.AsksView`
    * `Serving.ServesView`
    * `Serving.NotShadowed`

  Key theorems include:
    * `Serving.servesView_iff`
-/

------------------------------------------------------------
-- Requests For A View
------------------------------------------------------------

namespace AjarGateway

namespace Serving

open Http Store

/-
  An unconditional GET request for the target of a view that
  accepts its signed representation, while the store with
  the view is installed and has not expired.
-/
structure AsksView
    (http : HttpCrate)
    (store : PreparedContentStore)
    (view : StoredView)
    (env : Surroundings)
    (request : Request Chunks) : Prop where
  snapshot : env.snapshot = some store
  fresh : env.now < store.manifest.expiresAtUnix
  isGet : request.method = .get
  stored :
    store.viewForRequestTarget (requestTarget request.uri) =
      some view
  negotiated :
    negotiate (combinedAcceptHeader http request.headers)
        true =
      .ajarJson
  unconditional : request.headers.getAll .ifNoneMatch = []

/- The answer holds exactly the stored bytes of a view. -/
def ServesView
    (view : StoredView)
    (answer : Response Body) : Prop :=
  answer.status = 200 ∧ answer.body = .ofBytes view.bytes

/-
  An artifact that is routed before a view at some path has
  the same bytes as the view.
-/
structure NotShadowed
    (store : PreparedContentStore)
    (view : StoredView)
    (path : String) : Prop where
  manifest :
    path = manifestPath → store.manifest.bytes = view.bytes
  index :
    path ≠ manifestPath →
      path = store.manifest.viewsIndex →
        store.viewIndex.bytes = view.bytes

variable {lib : Externals} {state : ProxyState}
variable {store : PreparedContentStore} {view : StoredView}
variable {env : Surroundings} {request : Request Chunks}

/- What a request for a view is answered with. -/
theorem AsksView.respond_eq
    {target : Target}
    (hAsks : AsksView lib.http store view env request)
    (hStore : state.hasStore = true)
    (hTarget :
      storeTarget lib.http store request = some target) :
    respond lib state env request =
      target.content lib store env.now := by
  rw [respond_of_target lib state env hStore hAsks.snapshot
    hTarget]
  exact answerFromStore_of_fresh hAsks.fresh
    (by simp [ifNoneMatchMatches, hAsks.unconditional])

theorem servesView_content_iff
    (target : Target)
    (now : Int) :
    ServesView view (target.content lib store now) ↔
      target.bytes store = view.bytes := by
  rw [ServesView, target.content_status, target.content_body,
    Body.ofBytes, Body.ofBytes, Body.chunks.injEq,
    List.singleton_inj]
  exact and_iff_right rfl

/-
  For every store and every view in it, a request for the
  target of the view is answered 200 with its stored bytes
  exactly when neither the manifest nor the view index, with
  other bytes, is routed at the path of the request.
-/
theorem servesView_iff
    (hStore : state.hasStore = true)
    (hAsks : AsksView lib.http store view env request) :
    ServesView view (respond lib state env request) ↔
      NotShadowed store view request.uri.path := by
  by_cases hManifest : request.uri.path = manifestPath
  · rw [hAsks.respond_eq hStore
        (storeTarget_of_manifest hAsks.isGet hManifest),
      servesView_content_iff]
    constructor
    · intro hBytes
      exact ⟨fun _ => hBytes,
        fun hOther => absurd hManifest hOther⟩
    · intro hNotShadowed
      exact hNotShadowed.manifest hManifest
  · by_cases hIndex :
        request.uri.path = store.manifest.viewsIndex
    · rw [hAsks.respond_eq hStore
          (storeTarget_of_index hAsks.isGet hManifest
            hIndex),
        servesView_content_iff]
      constructor
      · intro hBytes
        exact ⟨fun hPath => absurd hPath hManifest,
          fun _ _ => hBytes⟩
      · intro hNotShadowed
        exact hNotShadowed.index hManifest hIndex
    · have hTarget :
          storeTarget lib.http store request =
            some (.viewJson view) := by
        rw [storeTarget_of_view hAsks.isGet
          ⟨hManifest, hIndex, hAsks.stored⟩,
          hAsks.negotiated]
      rw [hAsks.respond_eq hStore hTarget,
        servesView_content_iff]
      exact iff_of_true rfl
        ⟨fun hPath => absurd hPath hManifest,
          fun _ hPath => absurd hPath hIndex⟩

/- A request for a sample view by a client of the gateway. -/
theorem sample_asksView
    {store : PreparedContentStore}
    {view : StoredView}
    (uri : Uri)
    (hStored :
      store.viewForRequestTarget (requestTarget uri) =
        some view)
    (hFresh : sampleNow < store.manifest.expiresAtUnix) :
    AsksView sampleExt.http store view
      (sampleEnv store)
      (acceptRequest uri ajarJson) where
  snapshot := rfl
  fresh := hFresh
  isGet := rfl
  stored := hStored
  negotiated := by
    have hAccept :
        combinedAcceptHeader sampleExt.http
            (acceptRequest uri ajarJson).headers =
          some ajarJson :=
      combinedAcceptHeader_single
        reference_readsVisibleAscii ajarJson
        (List.all_eq_true.mp (by decide)) rfl
    rw [hAccept]
    decide
  unconditional := rfl

/- The sample page is served. -/
theorem servesView_iff_sample :
    ServesView
      ⟨(sampleView "/page" "Old").bytes,
        sampleViewTyped "/page" "Old"⟩
      (respond sampleExt sampleState
        (sampleEnv (samplePage "Old"))
        (acceptRequest pageTarget ajarJson)) := by
  have hRoutes := pageTarget_routes "Old"
  exact (servesView_iff rfl
    (sample_asksView pageTarget hRoutes.stored
      (by decide))).mpr
    ⟨fun hPath => absurd hPath hRoutes.notManifest,
      fun _ hPath => absurd hPath hRoutes.notIndex⟩

/- A view whose URL is the path of the view index. -/
def shadowedStore : PreparedContentStore :=
  sampleStore "/views" "/views" "Views"

/- It is loaded, and its target serves the view index. -/
theorem servesView_shadowed :
    loadFrom sampleExt.json sampleDir
        (sampleFiles "/views" "/views" "Views") sampleNow =
      .ok shadowedStore ∧
    ∃ view,
      AsksView sampleExt.http shadowedStore view
          (sampleEnv shadowedStore)
          (acceptRequest viewsTarget ajarJson) ∧
        ¬ ServesView view
          (respond sampleExt sampleState
            (sampleEnv shadowedStore)
            (acceptRequest viewsTarget ajarJson)) := by
  have hLoads :
      loadFrom sampleExt.json sampleDir
          (sampleFiles "/views" "/views" "Views")
          sampleNow =
        .ok shadowedStore :=
    sample_loads (by simp [sampleDocuments])
      (by simp [sampleDocuments]) (by decide)
  have hStored :
      shadowedStore.viewForRequestTarget
          (requestTarget viewsTarget) =
        some
          ⟨(sampleView "/views" "Views").bytes,
            sampleViewTyped "/views" "Views"⟩ :=
    AList.lookup_insert _
  have hAsks :=
    sample_asksView viewsTarget hStored (by decide)
  have hIndex :
      storeTarget sampleExt.http shadowedStore
          (acceptRequest viewsTarget ajarJson) =
        some .viewIndex := by
    refine storeTarget_of_index rfl ?_ ?_
    · decide
    · decide
  refine ⟨hLoads, _, hAsks, ?_⟩
  rw [hAsks.respond_eq rfl hIndex, servesView_content_iff]
  show sampleIndex.bytes ≠ (sampleView "/views" "Views").bytes
  decide

end Serving

end AjarGateway
