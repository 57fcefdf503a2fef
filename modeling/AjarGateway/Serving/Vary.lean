import AjarGateway.Serving.Transparency

/-
  Two requests that differ in their Accept headers.

  A shared cache may use one answer for the other request
  unless both answers list Accept in a Vary field.  The two
  representations of a view do; a page of the origin is
  passed on with the Vary fields that the origin gave it.

  Key definitions include:
    * `Serving.DifferInAccept`
    * `Serving.ListsAccept`
    * `Serving.AnswersVary`
    * `Serving.PageVaries`

  Key theorems include:
    * `Serving.answersVary_iff`
-/

------------------------------------------------------------
-- Answers To One Cache Key
------------------------------------------------------------

namespace AjarGateway

namespace Serving

open Http Store

/-
  Two unconditional GET requests for one target that only
  differ in their Accept headers.
-/
structure DifferInAccept
    (first second : Request Chunks) : Prop where
  isGet : first.method = .get
  method : second.method = first.method
  uri : second.uri = first.uri
  headers : ∀ name, name ≠ .accept →
    second.headers.getAll name = first.headers.getAll name
  unconditional : first.headers.getAll .ifNoneMatch = []

/- Some Vary field lists Accept. -/
def ListsAccept (headers : HeaderMap) : Prop :=
  ∃ value ∈ headers.getAll .vary,
    Rust.utf8 "accept" ∈ listedNames value

/- Two answers agree in their body and their media type. -/
def SameContent (first second : Response Body) : Prop :=
  first.body.bytes? = second.body.bytes? ∧
    first.headers.getAll .contentType =
      second.headers.getAll .contentType

/- Answers that differ both list Accept. -/
def AnswersVary (first second : Response Body) : Prop :=
  ¬ SameContent first second →
    ListsAccept first.headers ∧ ListsAccept second.headers

theorem SameContent.symm
    {first second : Response Body}
    (hSame : SameContent first second) :
    SameContent second first :=
  ⟨hSame.1.symm, hSame.2.symm⟩

theorem AnswersVary.symm
    {first second : Response Body}
    (hVary : AnswersVary first second) :
    AnswersVary second first :=
  fun hDiffer =>
    (hVary fun hSame => hDiffer hSame.symm).symm

/- A page of the origin with the content of a target. -/
def PageAgrees
    (http : HttpCrate)
    (store : PreparedContentStore)
    (page : Response Chunks)
    (target : Target) : Prop :=
  page.body.flatten = target.bytes store ∧
    (stripHopByHopHeaders http page.headers).getAll
        .contentType =
      [.fromStatic target.contentType]

/-
  Both requests are passed on, or neither is; or the page of
  the origin lists Accept in its Vary fields; or it agrees
  with what the other request is served.
-/
def PageVaries
    (http : HttpCrate)
    (store : PreparedContentStore)
    (page : Response Chunks)
    (first second : Request Chunks) : Prop :=
  (Passes http store first ↔ Passes http store second) ∨
    ListsAccept (stripHopByHopHeaders http page.headers) ∨
      ∀ target,
        storeTarget http store first = some target ∨
            storeTarget http store second = some target →
          PageAgrees http store page target

end Serving

end AjarGateway

------------------------------------------------------------
-- The Content Of An Answer
------------------------------------------------------------

namespace AjarGateway

namespace Serving

open Http Store

variable {lib : Externals} {state : ProxyState}
variable {store : PreparedContentStore}
variable {env env' : Surroundings}
variable {page : Response Chunks}
variable {first second : Request Chunks}

theorem DifferInAccept.symm
    (hPair : DifferInAccept first second) :
    DifferInAccept second first where
  isGet := hPair.method.trans hPair.isGet
  method := hPair.method.symm
  uri := hPair.uri.symm
  headers := fun name hName =>
    (hPair.headers name hName).symm
  unconditional :=
    (hPair.headers .ifNoneMatch (by decide)).trans
      hPair.unconditional

/- The Accept headers do not decide whether it is built. -/
theorem DifferInAccept.builds
    {config : ValidatedConfig}
    (hPair : DifferInAccept first second)
    (hBuild :
      ∃ upstream,
        buildUpstreamRequest lib config first =
          .ok upstream) :
    ∃ upstream,
      buildUpstreamRequest lib config second =
        .ok upstream := by
  rcases hBuild with ⟨_, hBuild⟩
  rcases (buildUpstreamRequest_ok_iff _ _ _ _).mp hBuild with
    ⟨declared, uri, hDeclared, hLimit, hParse, _⟩
  have hLength :
      declaredContentLength lib.http second.headers =
        declaredContentLength lib.http first.headers := by
    rw [declaredContentLength, declaredContentLength,
      HeaderMap.get, HeaderMap.get,
      hPair.headers .contentLength (by decide)]
  exact ⟨_, (buildUpstreamRequest_ok_iff _ _ _ _).mpr
    ⟨declared, uri, hLength.trans hDeclared, hLimit,
      by rw [hPair.uri]; exact hParse, rfl⟩⟩

/-
  Surroundings with a fresh store, and an origin that gives
  the same page to every request.
-/
structure Offers
    (store : PreparedContentStore)
    (page : Response Chunks)
    (env : Surroundings) : Prop where
  snapshot : env.snapshot = some store
  fresh : env.now < store.manifest.expiresAtUnix
  origin : ∀ upstream, env.origin upstream = .response page

/- A request that is answered from the store. -/
theorem respond_served
    {request : Request Chunks} {target : Target}
    (hStore : state.hasStore = true)
    (hOffers : Offers store page env)
    (hTarget :
      storeTarget lib.http store request = some target)
    (hUnconditional :
      request.headers.getAll .ifNoneMatch = []) :
    respond lib state env request =
      target.content lib store env.now := by
  rw [respond_of_target lib state env hStore
    hOffers.snapshot hTarget]
  exact answerFromStore_of_fresh hOffers.fresh
    (by simp [ifNoneMatchMatches, hUnconditional])

/- A request that is passed on. -/
theorem respond_page
    {request : Request Chunks}
    (hStore : state.hasStore = true)
    (hOffers : Offers store page env)
    (hTarget : storeTarget lib.http store request = none)
    (hBuild :
      ∃ upstream,
        buildUpstreamRequest lib state.config request =
          .ok upstream) :
    respond lib state env request =
      passThrough lib true page := by
  rcases hBuild with ⟨upstream, hBuild⟩
  rw [respond_of_no_target lib state env hStore
    hOffers.snapshot hTarget, answerFromOrigin, hBuild]
  simp only [hOffers.origin]

/- The link leaves every other field as it is. -/
theorem getAll_passThrough
    (linked : Bool)
    (name : HeaderName)
    (hName : HeaderName.link ≠ name) :
    (passThrough lib linked page).headers.getAll name =
      (stripHopByHopHeaders lib.http page.headers).getAll
        name := by
  simp only [passThrough]
  split
  · rw [HeaderMap.getAll_append, if_neg hName,
      List.append_nil]
  · rfl

theorem listsAccept_passThrough_iff (linked : Bool) :
    ListsAccept (passThrough lib linked page).headers ↔
      ListsAccept
        (stripHopByHopHeaders lib.http page.headers) := by
  rw [ListsAccept, ListsAccept,
    getAll_passThrough linked .vary (by decide)]

/- Only a view can be served to just one of the requests. -/
theorem listsAccept_content
    {target : Target} {now : Int}
    (hPair : DifferInAccept first second)
    (hTarget :
      storeTarget lib.http store first = some target)
    (hOther :
      storeTarget lib.http store second ≠ some target) :
    ListsAccept
      (target.content lib store now).headers := by
  have hGet := hPair.method.trans hPair.isGet
  have hListed :
      Rust.utf8 "accept" ∈
        listedNames (.fromStatic "Accept") := by
    decide
  rcases storeTarget_cases hTarget with
    ⟨_, ⟨hPath, rfl⟩ | ⟨hNot, hPath, rfl⟩ |
      ⟨view, _, hKind⟩⟩
  · refine absurd (storeTarget_of_manifest hGet ?_) hOther
    rw [hPair.uri, hPath]
  · refine absurd (storeTarget_of_index hGet ?_ ?_) hOther
    · rwa [hPair.uri]
    · rwa [hPair.uri]
  · refine ⟨.fromStatic "Accept", ?_, hListed⟩
    rw [target.content_vary]
    rcases hKind with rfl | rfl <;> simp

/- A page against the content of a target. -/
theorem sameContent_page_iff
    (target : Target)
    (now : Int) :
    SameContent (target.content lib store now)
        (passThrough lib true page) ↔
      PageAgrees lib.http store page target := by
  rw [SameContent, PageAgrees, target.content_body,
    target.content_contentType, Body.bytes?_ofBytes,
    getAll_passThrough true .contentType (by decide)]
  show some _ = some page.body.flatten ∧ _ ↔ _
  rw [Option.some.injEq, eq_comm (a := target.bytes store),
    eq_comm (a := [HeaderValue.fromStatic _])]

end Serving

end AjarGateway

------------------------------------------------------------
-- When Answers Vary
------------------------------------------------------------

namespace AjarGateway

namespace Serving

open Http Store

variable {lib : Externals} {state : ProxyState}
variable {store : PreparedContentStore}
variable {env env' : Surroundings}
variable {page : Response Chunks}
variable {first second : Request Chunks}

/- One request is served, the other one is passed on. -/
theorem answersVary_mixed_iff
    {target : Target}
    (hStore : state.hasStore = true)
    (hFirst : Offers store page env)
    (hSecond : Offers store page env')
    (hPair : DifferInAccept first second)
    (hBuild :
      ∃ upstream,
        buildUpstreamRequest lib state.config first =
          .ok upstream)
    (hServed :
      storeTarget lib.http store first = some target)
    (hPassed : storeTarget lib.http store second = none) :
    AnswersVary (respond lib state env first)
        (respond lib state env' second) ↔
      ListsAccept
          (stripHopByHopHeaders lib.http page.headers) ∨
        PageAgrees lib.http store page target := by
  have hViewLists :
      ListsAccept
        (target.content lib store env.now).headers :=
    listsAccept_content hPair hServed (by simp [hPassed])
  rw [respond_served hStore hFirst hServed
      hPair.unconditional,
    respond_page hStore hSecond hPassed (hPair.builds hBuild),
    AnswersVary, sameContent_page_iff,
    listsAccept_passThrough_iff, and_iff_right hViewLists,
    or_comm, or_iff_not_imp_left]

/-
  For every fresh store, every page of the origin and every
  two unconditional GET requests for one target that differ
  only in their Accept headers, of which one that is passed
  on can be built for the origin: answers that differ both
  list Accept exactly when both or none of the requests are
  passed on, or the page of the origin lists Accept itself,
  or it agrees with what the other request is served.
-/
theorem answersVary_iff
    (hStore : state.hasStore = true)
    (hFirst : Offers store page env)
    (hSecond : Offers store page env')
    (hPair : DifferInAccept first second)
    (hBuild :
      Passes lib.http store first ∨
          Passes lib.http store second →
        ∃ upstream,
          buildUpstreamRequest lib state.config first =
            .ok upstream) :
    AnswersVary (respond lib state env first)
        (respond lib state env' second) ↔
      PageVaries lib.http store page first second := by
  rw [← storeTarget_eq_none_iff,
    ← storeTarget_eq_none_iff] at hBuild
  rw [PageVaries, ← storeTarget_eq_none_iff,
    ← storeTarget_eq_none_iff]
  cases hServed : storeTarget lib.http store first with
  | none =>
      have hBuilds := hBuild (.inl hServed)
      have hBuilds' := hPair.builds hBuilds
      cases hServed' : storeTarget lib.http store second with
      | none =>
          refine iff_of_true ?_ (.inl Iff.rfl)
          rw [respond_page hStore hFirst hServed hBuilds,
            respond_page hStore hSecond hServed' hBuilds']
          exact fun hDiffer => absurd ⟨rfl, rfl⟩ hDiffer
      | some target' =>
          have hMixed := answersVary_mixed_iff hStore hSecond
            hFirst hPair.symm hBuilds' hServed' hServed
          rw [← hMixed.symm.trans
            ⟨AnswersVary.symm, AnswersVary.symm⟩]
          simp
  | some target =>
      cases hServed' : storeTarget lib.http store second with
      | none =>
          rw [answersVary_mixed_iff hStore hFirst hSecond
            hPair (hBuild (.inr hServed')) hServed hServed']
          simp
      | some target' =>
          refine iff_of_true ?_ (.inl (by simp))
          rw [respond_served hStore hFirst hServed
              hPair.unconditional,
            respond_served hStore hSecond hServed'
              hPair.symm.unconditional]
          intro hDiffer
          have hTargets : target ≠ target' := by
            rintro rfl
            apply hDiffer
            rw [SameContent, Target.content_body,
              Target.content_body,
              Target.content_contentType,
              Target.content_contentType]
            exact ⟨rfl, rfl⟩
          refine ⟨listsAccept_content hPair hServed ?_,
            listsAccept_content hPair.symm hServed' ?_⟩
          · simpa [hServed'] using hTargets.symm
          · simpa [hServed] using hTargets

/- Requests for the sample page that differ in Accept. -/
theorem sample_differInAccept
    (accept : String)
    (headers : HeaderMap)
    (hHeaders : ∀ name, name ≠ .accept →
      headers.getAll name = []) :
    DifferInAccept (acceptRequest pageTarget accept)
      (getRequest pageTarget headers) where
  isGet := rfl
  method := rfl
  uri := rfl
  headers := fun name hName => by
    rw [acceptRequest, getRequest, getRequest,
      HeaderMap.getAll_single, if_neg hName.symm]
    exact hHeaders name hName
  unconditional := rfl

theorem samplePageEnv_offers (contentType : HeaderValue) :
    Offers (samplePage "Old") (originPage contentType)
      (samplePageEnv contentType) where
  snapshot := rfl
  fresh := by
    show sampleNow < 1782950400
    decide
  origin := fun _ => rfl

/- The two representations of the sample view. -/
theorem answersVary_iff_sample :
    AnswersVary
      (respond sampleExt sampleState
        (samplePageEnv (.fromStatic "text/html"))
        (acceptRequest pageTarget ajarJson))
      (respond sampleExt sampleState
        (samplePageEnv (.fromStatic "text/html"))
        (acceptRequest pageTarget markdown)) := by
  have hTargets :=
    storeTarget_acceptRequest reference_readsVisibleAscii
      (pageTarget_routes "Old")
  have hPair :
      DifferInAccept (acceptRequest pageTarget ajarJson)
        (acceptRequest pageTarget markdown) :=
    sample_differInAccept _ _ fun name hName => by
      rw [HeaderMap.getAll_single, if_neg hName.symm]
  have hOffers :=
    samplePageEnv_offers (.fromStatic "text/html")
  have hStore : sampleState.hasStore = true := rfl
  have hFirst :
      ¬Passes referenceHttp (samplePage "Old")
        (acceptRequest pageTarget ajarJson) := by
    simp [← storeTarget_eq_none_iff, hTargets.1]
  have hSecond :
      ¬Passes referenceHttp (samplePage "Old")
        (acceptRequest pageTarget markdown) := by
    simp [← storeTarget_eq_none_iff, hTargets.2]
  refine (answersVary_iff hStore hOffers hOffers hPair
    ?_).mpr (.inl (iff_of_false hFirst hSecond))
  intro hPasses
  exact absurd hPasses (not_or.mpr ⟨hFirst, hSecond⟩)

/- The signed view and a page of the origin without Vary. -/
theorem answersVary_page_unlisted :
    DifferInAccept (acceptRequest pageTarget ajarJson)
        (getRequest pageTarget .empty) ∧
      ¬ AnswersVary
        (respond sampleExt sampleState
          (samplePageEnv (.fromStatic "text/html"))
          (acceptRequest pageTarget ajarJson))
        (respond sampleExt sampleState
          (samplePageEnv (.fromStatic "text/html"))
          (getRequest pageTarget .empty)) := by
  have hPair :
      DifferInAccept (acceptRequest pageTarget ajarJson)
        (getRequest pageTarget .empty) :=
    sample_differInAccept _ _ fun _ _ => rfl
  have hServed :=
    (storeTarget_acceptRequest reference_readsVisibleAscii
      (pageTarget_routes "Old")).1
  have hPassed :=
    (storeTarget_eq_none_iff _ _ _).mpr sample_passes
  have hOffers :=
    samplePageEnv_offers (.fromStatic "text/html")
  have hStore : sampleState.hasStore = true := rfl
  have hBuild :=
    sample_builds (acceptRequest pageTarget ajarJson) rfl
  refine ⟨hPair, ?_⟩
  rw [answersVary_mixed_iff hStore hOffers hOffers hPair
    hBuild hServed hPassed]
  rintro (⟨value, hValue, _⟩ | ⟨_, hType⟩)
  · have hNone :
        (stripHopByHopHeaders sampleExt.http
            (originPage
              (.fromStatic "text/html")).headers).getAll
            .vary =
          [] := by
      decide
    rw [hNone] at hValue
    cases hValue
  · revert hType
    decide

end Serving

end AjarGateway
