import AjarGateway.Serving.EntityTags

/-
  Whether a view is served with its signature.

  The entity tag and the signature of a view are strings of
  its document.  They become header values when the answer
  is built, and one that is not legal is left out.

  Key definitions include:
    * `Serving.ServedSigned`
    * `Serving.HasLegalFields`

  Key theorems include:
    * `Serving.not_servedSigned_of_control`
    * `Serving.servedSigned_iff`
-/

------------------------------------------------------------
-- Signed Answers
------------------------------------------------------------

namespace AjarGateway

namespace Serving

open Http Store

/- A view file spells a view. -/
def Spells
    (json : SerdeJson)
    (bytes : List UInt8)
    (view : View) : Prop :=
  ∃ value,
    json.fromSlice bytes = some value ∧
      json.viewFromValue value = some view

/- One of the two representations of a view. -/
def Target.Represents
    (target : Target)
    (view : StoredView) : Prop :=
  target = .viewJson view ∨ target = .viewMarkdown view

/- The fields that vouch for a view, with its own values. -/
structure CarriesFields
    (view : View)
    (headers : HeaderMap) : Prop where
  etag :
    headers.getAll .etag = [.fromStatic view.etag]
  signature :
    headers.getAll ajarContentSignature =
      [.fromStatic view.signature.sig]

/-
  Every 200 answer that represents a stored view carries the
  entity tag and the signature that its document embeds.
-/
def ServedSigned
    (lib : Externals)
    (state : ProxyState)
    (store : PreparedContentStore)
    (view : StoredView) : Prop :=
  ∀ uri request env target embedded,
    AsksStore lib store uri request env target →
    target.Represents view →
    Spells lib.json view.bytes embedded →
    (respond lib state env request).status = 200 →
      CarriesFields embedded
        (respond lib state env request).headers

/- Both strings of a view are accepted as header values. -/
structure HasLegalFields
    (http : HttpCrate)
    (view : View) : Prop where
  etag : (http.headerValueFromStr view.etag).isSome
  signature :
    (http.headerValueFromStr view.signature.sig).isSome

end Serving

end AjarGateway

------------------------------------------------------------
-- When Views Are Served Signed
------------------------------------------------------------

namespace AjarGateway

namespace Serving

open Http Store

variable {lib : Externals} {state : ProxyState}
variable {store : PreparedContentStore} {view : StoredView}

theorem Target.Represents.etag_eq
    {target : Target}
    (hRepresents : target.Represents view) :
    target.etag store = view.view.etag := by
  rcases hRepresents with rfl | rfl
  · rfl
  · rfl

/- A signature is left out when it is not legal. -/
theorem Target.Represents.content_signature
    {target : Target}
    (hRepresents : target.Represents view)
    (now : Int) :
    (target.content lib store now).headers.getAll
        ajarContentSignature =
      (lib.http.headerValueFromStr
        view.view.signature.sig).toList := by
  cases hSig :
      lib.http.headerValueFromStr view.view.signature.sig with
  | none =>
      rcases hRepresents with rfl | rfl <;>
        simp [content, viewResponse, hSig,
          HeaderMap.getAll_insert, HeaderName.etag,
          HeaderName.contentType, HeaderName.vary,
          ajarContentSignature]
  | some value =>
      rcases hRepresents with rfl | rfl <;>
        simp [content, viewResponse, hSig,
          HeaderMap.getAll_insert, HeaderName.vary,
          ajarContentSignature]

/- A string is kept as a header value, or left out. -/
theorem toList_headerValueFromStr_iff
    {http : HttpCrate}
    (hWrites : http.WritesVisibleAscii)
    (text : String) :
    (http.headerValueFromStr text).toList =
        [.fromStatic text] ↔
      (http.headerValueFromStr text).isSome := by
  cases hValue : http.headerValueFromStr text with
  | none => simp
  | some value =>
      have hBytes := hWrites.keeps text value hValue
      cases value
      exact iff_of_true
        (congrArg (fun bytes => [HeaderValue.mk bytes]) hBytes)
        rfl

/- What the content of a view carries. -/
theorem carriesFields_content_iff
    {target : Target}
    (hWrites : lib.http.WritesVisibleAscii)
    (hRepresents : target.Represents view)
    (now : Int) :
    CarriesFields view.view
        (target.content lib store now).headers ↔
      HasLegalFields lib.http view.view := by
  have hEtag :=
    toList_headerValueFromStr_iff hWrites view.view.etag
  have hSignature :=
    toList_headerValueFromStr_iff hWrites
      view.view.signature.sig
  constructor
  · rintro ⟨hTag, hSig⟩
    rw [target.content_etag, hRepresents.etag_eq] at hTag
    rw [hRepresents.content_signature] at hSig
    exact ⟨hEtag.mp hTag, hSignature.mp hSig⟩
  · rintro ⟨hTag, hSig⟩
    constructor
    · rw [target.content_etag, hRepresents.etag_eq]
      exact hEtag.mpr hTag
    · rw [hRepresents.content_signature]
      exact hSignature.mpr hSig

/- The bytes of a view of a loaded store spell that view. -/
theorem spells_of_stored
    {json : SerdeJson} {path : Path} {target : String}
    (hLoaded : WasLoaded json path store)
    (hStored :
      store.viewForRequestTarget target = some view) :
    Spells json view.bytes view.view := by
  rcases hLoaded with ⟨files, now, -, hLoad⟩
  have hAccepted := loadFrom_ok json path files now store hLoad
  rcases (hAccepted.views target view hStored).parsed with
    ⟨value, hValue, -, hView⟩
  exact ⟨value, hValue, hView⟩

/- A file spells one view. -/
theorem Spells.unique
    {json : SerdeJson} {bytes : List UInt8}
    {first second : View}
    (hFirst : Spells json bytes first)
    (hSecond : Spells json bytes second) :
    first = second := by
  rcases hFirst with ⟨value, hValue, hView⟩
  rcases hSecond with ⟨value', hValue', hView'⟩
  rw [hValue] at hValue'
  cases hValue'
  rw [hView] at hView'
  exact Option.some.inj hView'

/- A view that some request reaches needs legal fields. -/
theorem ServedSigned.hasLegalFields
    {path : Path} {uri : Uri}
    (hReads : lib.http.ReadsVisibleAscii)
    (hWrites : lib.http.WritesVisibleAscii)
    (hStore : state.hasStore = true)
    (hLoaded : WasLoaded lib.json path store)
    (hView : RoutesView store uri view)
    (hSigned : ServedSigned lib state store view) :
    HasLegalFields lib.http view.view := by
  rcases hLoaded.fresh with ⟨now, hRange, hFresh⟩
  let env : Surroundings :=
    { (default : Surroundings) with
      snapshot := some store
      now := now }
  have hAsks :
      AsksStore lib store uri (acceptRequest uri ajarJson)
        env (.viewJson view) :=
    ⟨rfl, rfl, hRange,
      (storeTarget_acceptRequest hReads hView).1⟩
  have hAnswer :
      respond lib state env (acceptRequest uri ajarJson) =
        (Target.viewJson view).content lib store now := by
    rw [hAsks.respond_eq hStore]
    exact answerFromStore_of_fresh hFresh rfl
  have hCarries :=
    hSigned _ _ _ _ _ hAsks (.inl rfl)
      (spells_of_stored hLoaded hView.stored)
      (by rw [hAnswer, Target.content_status])
  rw [hAnswer] at hCarries
  exact (carriesFields_content_iff hWrites (.inl rfl)
    now).mp hCarries

/-
  A routed view with a control character in its entity tag
  or in its signature is served without that field.
-/
theorem not_servedSigned_of_control
    {path : Path} {uri : Uri}
    (hReads : lib.http.ReadsVisibleAscii)
    (hWrites : lib.http.WritesVisibleAscii)
    (hControls : lib.http.RefusesControls)
    (hStore : state.hasStore = true)
    (hLoaded : WasLoaded lib.json path store)
    (hView : RoutesView store uri view)
    (hControl :
      view.view.etag.toList.any HttpCrate.isControlChar =
          true ∨
        view.view.signature.sig.toList.any
            HttpCrate.isControlChar =
          true) :
    ¬ServedSigned lib state store view := by
  intro hSigned
  have hLegal :=
    hSigned.hasLegalFields hReads hWrites hStore hLoaded hView
  rcases hControl with hEtag | hSignature
  · have hSome := hLegal.etag
    rw [hControls _ hEtag] at hSome
    cases hSome
  · have hSome := hLegal.signature
    rw [hControls _ hSignature] at hSome
    cases hSome

/-
  For every loaded store and every view in it, all 200
  answers for the view carry its entity tag and its
  signature exactly when no request is routed to the view,
  or both strings are legal header values.
-/
theorem servedSigned_iff
    {path : Path} {key : String}
    (hReads : lib.http.ReadsVisibleAscii)
    (hWrites : lib.http.WritesVisibleAscii)
    (hStore : state.hasStore = true)
    (hLoaded : WasLoaded lib.json path store)
    (hStored : store.viewForRequestTarget key = some view) :
    ServedSigned lib state store view ↔
      (∀ uri, ¬RoutesView store uri view) ∨
        HasLegalFields lib.http view.view := by
  constructor
  · intro hSigned
    by_cases hRouted : ∃ uri, RoutesView store uri view
    · rcases hRouted with ⟨uri, hView⟩
      exact .inr (hSigned.hasLegalFields hReads hWrites
        hStore hLoaded hView)
    · exact .inl (not_exists.mp hRouted)
  · intro hCase uri request env target embedded hAsks
      hRepresents hSpells hStatus
    have hEmbedded :=
      hSpells.unique (spells_of_stored hLoaded hStored)
    subst hEmbedded
    rw [hAsks.respond_ok hStore hStatus,
      carriesFields_content_iff hWrites hRepresents]
    rcases hCase with hUnrouted | hLegal
    · exfalso
      rcases storeTarget_cases hAsks.target with
        ⟨_, ⟨_, rfl⟩ | ⟨_, _, rfl⟩ | ⟨other, hView, hKind⟩⟩
      · rcases hRepresents with hOther | hOther <;>
          cases hOther
      · rcases hRepresents with hOther | hOther <;>
          cases hOther
      · have hSame : other = view := by
          rcases hKind with rfl | rfl <;>
            rcases hRepresents with hEq | hEq <;>
              cases hEq <;> rfl
        subst hSame
        exact hUnrouted _ hView
    · exact hLegal

/- The sample page is served signed. -/
theorem servedSigned_iff_sample :
    ServedSigned sampleExt sampleState (samplePage "Old")
      ⟨(sampleView "/page" "Old").bytes,
        sampleViewTyped "/page" "Old"⟩ := by
  have hLoaded :
      WasLoaded sampleExt.json sampleDir
        (samplePage "Old") :=
    ⟨_, _, sampleNow_inClockRange, samplePage_old_loads⟩
  refine (servedSigned_iff reference_readsVisibleAscii
    reference_writesVisibleAscii rfl hLoaded
    (pageTarget_routes "Old").stored).mpr (.inr ?_)
  constructor
  · decide
  · decide

/- A page whose signature ends with a DEL character. -/
def controlPage : Page :=
  { pageOf "/views" "/page" "Old" with sig := "v1\x7f" }

/- It is loaded, and served without its signature. -/
theorem servedSigned_control :
    loadFrom (documentExt controlPage.documents).json sampleDir
        controlPage.files sampleNow =
      .ok (controlPage.store "/page") ∧
    ¬ServedSigned (documentExt controlPage.documents)
      sampleState (controlPage.store "/page")
      ⟨controlPage.view.bytes, controlPage.viewTyped⟩ := by
  have hLoads :
      loadFrom (documentExt controlPage.documents).json
          sampleDir controlPage.files sampleNow =
        .ok (controlPage.store "/page") :=
    Page.loads_documents (by decide)
      (by decide) (by decide) (by decide) _
      (by decide)
  have hView :
      RoutesView (controlPage.store "/page") pageTarget
        ⟨controlPage.view.bytes, controlPage.viewTyped⟩ :=
    { notManifest := by decide
      notIndex := by
        show pageTarget.path ≠ "/views"
        decide
      stored := AList.lookup_insert _ }
  exact ⟨hLoads, not_servedSigned_of_control
    reference_readsVisibleAscii reference_writesVisibleAscii
    reference_refusesControls rfl
    ⟨_, _, sampleNow_inClockRange, hLoads⟩ hView
    (.inr (by decide))⟩

end Serving

end AjarGateway
