import AjarGateway.Serving.ArtifactTags
import AjarGateway.Serving.ManifestCache
import AjarGateway.System.Provenance

/-
  Copies of the manifest in caches, while reloads go on.

  A cache asks again with the tag of the copy that it holds,
  and a 304 may come from another store than the copy.  The
  copy then has the tag of that store's manifest; and as no
  copy is fresh for more than an hour after it was renewed,
  a manifest that a reload has replaced leaves the caches.

  Key definitions include:
    * `System.CachedManifest`
    * `System.Caching`
    * `System.RenewedFrom`

  Key theorems include:
    * `System.renewedFrom_of_caching`
    * `System.caches_follow_reloads`
-/

------------------------------------------------------------
-- Tags That Are Sent Back
------------------------------------------------------------

namespace AjarGateway

namespace Store

/- The characters of a number in some base. -/
theorem mem_toDigits
    {base : Nat} {c : Char}
    (hBase : 1 < base)
    (n : Nat)
    (hMem : c ∈ Nat.toDigits base n) :
    ∃ digit < base, c = Nat.digitChar digit := by
  induction n using Nat.strong_induction_on with
  | _ n ih =>
      rw [Nat.toDigits_eq_if hBase] at hMem
      split at hMem
      · rename_i hSmall
        exact ⟨n, hSmall, List.mem_singleton.mp hMem⟩
      · rcases List.mem_append.mp hMem with hRest | hLast
        · exact ih _ (Nat.div_lt_self (by omega) hBase)
            hRest
        · exact ⟨n % base, Nat.mod_lt _ (by omega),
            List.mem_singleton.mp hLast⟩

end Store

namespace Serving

open Http Store

/- No character of a tag is changed by reading it back. -/
theorem isPlainChar_strongEtag
    (label bytes : List UInt8) :
    ∀ c ∈ (strongEtag label bytes none).toList,
      isPlainChar c = true := by
  have hDigits :
      ∀ digit < 16,
        isPlainChar (Nat.digitChar digit) = true := by
    decide
  intro c hMem
  rw [strongEtag_toList, List.leftpad] at hMem
  simp only [List.mem_cons, List.mem_append,
    List.mem_replicate, List.not_mem_nil, or_false] at hMem
  rcases hMem with
    rfl | (⟨_, rfl⟩ | hHash) | rfl | hLength | rfl
  · decide
  · decide
  · rcases mem_toDigits (by decide) _ hHash with
      ⟨digit, hSmall, rfl⟩
    exact hDigits digit hSmall
  · decide
  · rcases mem_toDigits (by decide) _ hLength with
      ⟨digit, hSmall, rfl⟩
    exact hDigits digit (by omega)
  · decide

/- A request that only carries one tag matches no other. -/
theorem etag_eq_of_matches
    {http : HttpCrate} {headers : HeaderMap}
    {label bytes : List UInt8} {etag : String}
    (hReads : http.ReadsVisibleAscii)
    (hCarried :
      ∀ value ∈ headers.getAll .ifNoneMatch,
        value = .fromStatic (strongEtag label bytes none))
    (hMatches :
      ifNoneMatchMatches http headers etag = true) :
    etag = strongEtag label bytes none := by
  have hPlain := isPlainChar_strongEtag label bytes
  have hNotStar :
      (strongEtag label bytes none).toList ≠ ['*'] := by
    rw [strongEtag_toList]
    simp
  generalize strongEtag label bytes none = tag
    at hCarried hPlain hNotStar ⊢
  have hParts : ∀ c ∈ tag.toList,
      isVisibleChar c = true ∧ Rust.isWhitespace c = false ∧
        c ≠ ',' ∧ Rust.asciiLowercase c = c := by
    intro c hMem
    simpa [isPlainChar, and_assoc] using hPlain c hMem
  have hOne : tag.toList.splitOn ',' = [tag.toList] :=
    List.splitOn_eq_singleton fun hComma =>
      (hParts ',' hComma).2.2.1 rfl
  have hTrim : Rust.trim tag.toList = tag.toList :=
    Rust.trimMatches_of_none _ _ fun c hMem =>
      (hParts c hMem).2.1
  rw [ifNoneMatchMatches, List.any_eq_true] at hMatches
  rcases hMatches with ⟨value, hValue, hFound⟩
  rw [hCarried value hValue,
    hReads.text tag fun c hMem => (hParts c hMem).1] at hFound
  simp only [hOne, List.any_cons, List.any_nil,
    Bool.or_false, hTrim, Bool.or_eq_true, beq_iff_eq]
    at hFound
  rcases hFound with hStar | hSame
  · exact absurd hStar hNotStar
  · exact (String.toList_inj.mp hSame).symm

end Serving

end AjarGateway

------------------------------------------------------------
-- Caches
------------------------------------------------------------

namespace AjarGateway

namespace System

open Http Interleaving Serving Store

/- A copy of the manifest in a cache. -/
structure CachedManifest extends CacheEntry where
  body : Body

/-
  A GET request for the manifest, by the handler that
  answers it, and the time on the cache's clock when it gets
  the answer.
-/
structure Exchange where
  thread : Nat
  request : Request Chunks
  answer : Response Body
  date : Int
  isGet : request.method = .get
  path : request.uri.path = manifestPath

/- What the cache holds after an exchange. -/
def keep
    (cache : Option CachedManifest)
    (exchange : Exchange) : Option CachedManifest :=
  if exchange.answer.status = 200 then
    some
      ⟨⟨exchange.date, exchange.answer.headers⟩,
        exchange.answer.body⟩
  else if exchange.answer.status = 304 then
    cache.map fun copy =>
      ⟨⟨exchange.date,
          refreshHeaders copy.headers
            exchange.answer.headers⟩,
        copy.body⟩
  else
    cache

/- The tags that a request carries are those of the copy. -/
def AsksWith
    (cache : Option CachedManifest)
    (request : Request Chunks) : Prop :=
  ∀ value ∈ request.headers.getAll .ifNoneMatch,
    ∃ copy ∈ cache, value ∈ copy.headers.getAll .etag

variable {lib : Externals} {state : ProxyState}

/- The exchange is one of the run. -/
structure Exchange.Occurs
    (exchange : Exchange)
    (events : List (Event (gateway lib state))) :
    Prop where
  start :
    .start exchange.thread
        (.publicRequest exchange.request) ∈
      events
  answer :
    .answer exchange.thread exchange.answer ∈ events

/-
  A cache beside a run: its exchanges so far, and what it
  holds.  It may drop its copy at any time.
-/
inductive Caching
    (events : List (Event (gateway lib state))) :
    List Exchange →
    Option CachedManifest →
    Prop where
| start :
    Caching events [] none
| exchange
    {exchanges : List Exchange}
    {cache : Option CachedManifest}
    {exchange : Exchange}
    (hCaching : Caching events exchanges cache)
    (hOccurs : exchange.Occurs events)
    (hAsks : AsksWith cache exchange.request) :
    Caching events (exchanges ++ [exchange])
      (keep cache exchange)
| drop
    {exchanges : List Exchange}
    {cache : Option CachedManifest}
    (hCaching : Caching events exchanges cache) :
    Caching events exchanges none

/-
  The copy was stored or renewed last in an exchange that
  was answered from this store: it has the date of the
  exchange, the tag of the store's manifest, which is that
  of its own bytes, and at most an hour to live.
-/
structure RenewedFrom
    (events : List (Event (gateway lib state)))
    (copy : CachedManifest)
    (exchange : Exchange)
    (store : PreparedContentStore) : Prop where
  read :
    .call exchange.thread ⟨.readStore, some store⟩ ∈ events
  date : copy.date = exchange.date
  etag :
    copy.headers.getAll .etag =
      [.fromStatic store.manifest.etag]
  body :
    ∃ bytes,
      copy.body.bytes? = some bytes ∧
        store.manifest.etag =
          strongEtag Target.manifest.label bytes none
  age :
    ∃ age,
      maxAge copy.headers = some age ∧ age ≤ 3600

end System

end AjarGateway

------------------------------------------------------------
-- One Exchange
------------------------------------------------------------

namespace AjarGateway

namespace System

open Http Interleaving Serving Store

variable {lib : Externals} {state : ProxyState}
variable {config : GatewayConfig} {files : FileSystem}
variable {shared : SharedState}
variable {events : List (Event (gateway lib state))}
variable {after : Config (gateway lib state)}
variable {exchange : Exchange}

/- Where the answer of an exchange has come from. -/
theorem Exchange.Occurs.cases
    (hStore : state.hasStore = true)
    (hRun : Run (.initial shared) events after)
    (hOccurs : exchange.Occurs events) :
    exchange.answer =
        ProxyHttpError.storeStateUnavailable.intoResponse ∨
      ∃ store now,
        .call exchange.thread ⟨.readStore, some store⟩ ∈
            events ∧
          exchange.answer =
            answerFromStore lib store now
              exchange.request.headers .manifest := by
  rcases read_of_answered hStore hRun hOccurs.start
      hOccurs.answer with
    ⟨env, hRespond, hRead⟩
  cases hSnapshot : env.snapshot with
  | none =>
      left
      rw [hRespond]
      exact respond_of_poisoned lib state env hStore
        hSnapshot exchange.request
  | some store =>
      right
      rw [hSnapshot] at hRead
      refine ⟨store, env.now, hRead, ?_⟩
      rw [hRespond]
      exact respond_of_target lib state env hStore hSnapshot
        (storeTarget_of_manifest exchange.isGet
          exchange.path)

/- The manifest of a store that is read has its own tag. -/
theorem etag_of_read
    {store : PreparedContentStore} {thread : Nat}
    (hStarted : Started lib config files state shared)
    (hRun : Run (.initial shared) events after)
    (hRead :
      .call thread ⟨.readStore, some store⟩ ∈ events) :
    store.manifest.etag =
      strongEtag Target.manifest.label store.manifest.bytes
        none := by
  rcases read_from_disk hStarted hRun hRead with
    ⟨_, _, _, _, _, _, _, _, _, hLoad⟩
  exact (loadFrom_ok _ _ _ _ _ hLoad).manifestEtag

/- A full answer is a copy from the store that was read. -/
theorem renewedFrom_of_ok
    {store : PreparedContentStore} {now : Int}
    (hWrites : lib.http.WritesVisibleAscii)
    (hStarted : Started lib config files state shared)
    (hRun : Run (.initial shared) events after)
    (hRead :
      .call exchange.thread ⟨.readStore, some store⟩ ∈
        events)
    (hAnswer :
      exchange.answer =
        answerFromStore lib store now
          exchange.request.headers .manifest)
    (hStatus : exchange.answer.status = 200) :
    RenewedFrom events
      ⟨⟨exchange.date, exchange.answer.headers⟩,
        exchange.answer.body⟩
      exchange store := by
  have hTag := etag_of_read hStarted hRun hRead
  rw [hAnswer] at hStatus
  rcases answerFromStore_ok hStatus with
    ⟨hFresh, _, hContent⟩
  rw [hContent] at hAnswer
  rw [hAnswer]
  constructor
  case read => exact hRead
  case date => rfl
  case etag =>
    rw [Target.content_etag, Target.etag, hTag,
      hWrites.text _ (isVisibleChar_strongEtag _ _)]
    rfl
  case body =>
    refine ⟨store.manifest.bytes, ?_, hTag⟩
    rw [Target.content_body, Body.bytes?_ofBytes]
    rfl
  case age =>
    refine ⟨_, maxAge_manifest hWrites hFresh, ?_⟩
    have hCast := manifestAge_cast hFresh
    omega

/-
  A 304 renews the copy from the store that was read, be it
  another one than before: its tag is the tag that was sent.
-/
theorem RenewedFrom.renew
    {copy : CachedManifest} {last : Exchange}
    {store old : PreparedContentStore} {now : Int}
    (hReads : lib.http.ReadsVisibleAscii)
    (hOld : RenewedFrom events copy last old)
    (hAsks : AsksWith (some copy) exchange.request)
    (hRead :
      .call exchange.thread ⟨.readStore, some store⟩ ∈
        events)
    (hAnswer :
      exchange.answer =
        answerFromStore lib store now
          exchange.request.headers .manifest)
    (hStatus : exchange.answer.status = 304) :
    RenewedFrom events
      ⟨⟨exchange.date,
          refreshHeaders copy.headers
            exchange.answer.headers⟩,
        copy.body⟩
      exchange store := by
  rcases hOld.body with ⟨bytes, hBytes, hTag⟩
  rw [hAnswer] at hStatus
  rcases answerFromStore_not_modified hStatus with
    ⟨hFresh, hMatches⟩
  have hSame : store.manifest.etag = old.manifest.etag := by
    rw [hTag]
    refine etag_eq_of_matches hReads ?_ hMatches
    intro value hValue
    rcases hAsks value hValue with ⟨sent, hSent, hEtag⟩
    cases hSent
    rw [hOld.etag, List.mem_singleton] at hEtag
    rw [hEtag, hTag]
  have hEmpty : exchange.answer = emptyResponse 304 := by
    rw [hAnswer, answerFromStore,
      if_neg (not_le.mpr hFresh)]
    exact if_pos hMatches
  have hKept :
      refreshHeaders copy.headers exchange.answer.headers =
        copy.headers := by
    rw [hEmpty]
    simp [refreshHeaders, emptyResponse, Response.new,
      HeaderMap.keys, HeaderMap.empty]
  rw [hKept]
  constructor
  case read => exact hRead
  case date => rfl
  case etag =>
    rw [hSame]
    exact hOld.etag
  case body =>
    rw [hSame]
    exact hOld.body
  case age => exact hOld.age

end System

end AjarGateway

------------------------------------------------------------
-- Caches Follow Reloads
------------------------------------------------------------

namespace AjarGateway

namespace System

open Http Interleaving Serving Store

variable {lib : Externals} {state : ProxyState}
variable {config : GatewayConfig} {files : FileSystem}
variable {shared : SharedState}
variable {events : List (Event (gateway lib state))}
variable {after : Config (gateway lib state)}
variable {exchanges : List Exchange}

/- Every copy was renewed last in one of the exchanges. -/
theorem renewedFrom_of_caching
    {cache : Option CachedManifest}
    (hReads : lib.http.ReadsVisibleAscii)
    (hWrites : lib.http.WritesVisibleAscii)
    (hStarted : Started lib config files state shared)
    (hStore : state.hasStore = true)
    (hRun : Run (.initial shared) events after)
    (hCaching : Caching events exchanges cache) :
    ∀ copy ∈ cache,
      ∃ exchange ∈ exchanges, ∃ store,
        RenewedFrom events copy exchange store := by
  induction hCaching with
  | start =>
      intro copy hCopy
      cases hCopy
  | drop _ _ =>
      intro copy hCopy
      cases hCopy
  | @exchange exchanges cache exchange _ hOccurs hAsks ih =>
      have hLater :
          ∀ copy ∈ cache,
            ∃ other ∈ exchanges ++ [exchange], ∃ store,
              RenewedFrom events copy other store := by
        intro copy hCopy
        rcases ih copy hCopy with ⟨other, hMem, hRenewed⟩
        exact ⟨other, List.mem_append_left _ hMem, hRenewed⟩
      have hLast : exchange ∈ exchanges ++ [exchange] := by
        simp
      intro copy hCopy
      rcases hOccurs.cases hStore hRun with
        hPoisoned | ⟨store, now, hRead, hAnswer⟩
      · rw [keep, hPoisoned] at hCopy
        exact hLater copy hCopy
      · rw [keep] at hCopy
        split at hCopy
        · rename_i hStatus
          cases hCopy
          exact ⟨exchange, hLast, store,
            renewedFrom_of_ok hWrites hStarted hRun hRead
              hAnswer hStatus⟩
        · split at hCopy
          · rename_i hStatus
            cases cache with
            | none => cases hCopy
            | some held =>
                rcases ih held rfl with
                  ⟨last, _, old, hOld⟩
                cases hCopy
                exact ⟨exchange, hLast, store,
                  hOld.renew hReads hAsks hRead hAnswer
                    hStatus⟩
          · exact hLater copy hCopy

/- A copy is fresh for at most an hour. -/
theorem RenewedFrom.not_fresh
    {copy : CachedManifest} {exchange : Exchange}
    {store : PreparedContentStore} {time : Int}
    (hRenewed : RenewedFrom events copy exchange store)
    (hFresh : copy.Fresh time) :
    time < exchange.date + 3600 := by
  rcases hRenewed.age with ⟨age, hAge, hBound⟩
  rcases hFresh with ⟨found, hFound, hTime⟩
  rw [hAge] at hFound
  cases hFound
  rw [hRenewed.date] at hTime
  omega

/-
  An hour after its last exchange from before a reload, a
  cache holds as fresh only what this reload has installed,
  or one that was not over when it started: the copy has no
  other length than that manifest, and does not differ from
  it in one byte.
-/
theorem caches_follow_reloads
    {reloader : Nat} {reloaded : Response Body}
    {copy : CachedManifest} {time : Int}
    (hReads : lib.http.ReadsVisibleAscii)
    (hWrites : lib.http.WritesVisibleAscii)
    (hStarted : Started lib config files state shared)
    (hStore : state.hasStore = true)
    (hRun : Run (.initial shared) events after)
    (hReload : .start reloader .reload ∈ events)
    (hReloaded : .answer reloader reloaded ∈ events)
    (hStatus : reloaded.status = 200)
    (hCaching : Caching events exchanges (some copy))
    (hFresh : copy.Fresh time)
    (hRecent : ∀ exchange ∈ exchanges,
      time < exchange.date + 3600 →
        AnsweredBefore events reloader exchange.thread) :
    ∃ other path store bytes,
      .call other ⟨.loadFromDir path, .ok store⟩ ∈ events ∧
        .call other
            ⟨.writeStore (assignUnlessLower store),
              .assigned⟩ ∈ events ∧
          (other = reloader ∨
            ¬AnsweredBefore events other reloader) ∧
            copy.body.bytes? = some bytes ∧
              strongEtag Target.manifest.label bytes none =
                  store.manifest.etag ∧
                ¬Altered bytes store.manifest.bytes := by
  rcases renewedFrom_of_caching hReads hWrites hStarted
      hStore hRun hCaching copy rfl with
    ⟨exchange, hMem, store, hRenewed⟩
  have hBefore :=
    hRecent exchange hMem (hRenewed.not_fresh hFresh)
  rcases loaded_after_reload hStarted hStore hRun hReload
      hReloaded hStatus hRenewed.read hBefore with
    ⟨other, path, hLoad, hAssigned, hOther, _⟩
  rcases hRenewed.body with ⟨bytes, hBytes, hTag⟩
  refine ⟨other, path, store, bytes, hLoad, hAssigned,
    hOther, hBytes, hTag.symm, ?_⟩
  intro hAltered
  apply strongEtag_ne_of_altered hAltered
    Target.manifest.label
  rw [← hTag]
  exact etag_of_read hStarted hRun hRenewed.read

/- The first request of the sample run, by a cache. -/
def sampleExchange : Exchange where
  thread := 1
  request := getRequest manifestTarget .empty
  answer :=
    respond sampleExt sampleState
      (sampleEnv (samplePage "Old"))
      (getRequest manifestTarget .empty)
  date := sampleNow
  isGet := rfl
  path := manifestTarget_path

/- A request of the same cache an hour earlier. -/
def earlyExchange : Exchange :=
  { sampleExchange with
    thread := 3
    date := sampleNow - 3600 }

/- The early request, and then the sample run. -/
def cachedEvents
    (flag : Bool) :
    List (Event (gateway sampleExt sampleState)) :=
  requestEvents sampleExt sampleState 3
      (sampleEnv (samplePage "Old"))
      (getRequest manifestTarget .empty) ++
    clientEvents flag

theorem run_cachedEvents :
    ∃ flag after,
      Run (.initial sampleShared) (cachedEvents flag)
        after := by
  have hIdle (thread : Nat) :
      (Config.initial sampleShared :
        Config (gateway sampleExt sampleState)).threads
          thread = .idle :=
    rfl
  rcases run_request_kept (getRequest manifestTarget .empty)
      (hIdle 3) (sampleEnv_agrees rfl) rfl with
    ⟨fetched, hFetch, hLock, hOthers⟩
  have hFiles :
      fetched.state.files = samplePageFiles "Old" := by
    apply files_of_no_change hFetch
    simp [requestEvents]
  rcases run_clientEvents_after
      (fun thread hThread =>
        (hOthers thread (by omega)).trans (hIdle thread))
      hFiles hLock with
    ⟨flag, after, hClients, _⟩
  exact ⟨flag, after, hFetch.append hClients⟩

/- The answer of both exchanges is the manifest. -/
theorem sampleExchange_answer :
    sampleExchange.answer =
      Target.manifest.content sampleExt (samplePage "Old")
        sampleNow := by
  have hFresh :
      sampleNow <
        (samplePage "Old").manifest.expiresAtUnix := by
    decide
  have hTarget :
      storeTarget sampleExt.http (samplePage "Old")
          (getRequest manifestTarget .empty) =
        some .manifest :=
    storeTarget_of_manifest rfl manifestTarget_path
  exact
    (respond_of_target sampleExt sampleState
        (sampleEnv (samplePage "Old")) rfl rfl
        hTarget).trans
      (answerFromStore_of_fresh hFresh rfl)

/- The cache has asked before the reload and after it. -/
theorem caching_cachedEvents (flag : Bool) :
    Caching (cachedEvents flag)
      [earlyExchange, sampleExchange]
      (some
        ⟨⟨sampleNow, sampleExchange.answer.headers⟩,
          sampleExchange.answer.body⟩) := by
  have hStarts := clientEvents_started flag
  have hAnswers := clientEvents_answered flag
  have hOk : sampleExchange.answer.status = 200 := by
    rw [sampleExchange_answer, Target.content_status]
  have hAsks (cache : Option CachedManifest) :
      AsksWith cache (getRequest manifestTarget .empty) := by
    intro value hValue
    cases hValue
  have hEarly :
      earlyExchange.Occurs (cachedEvents flag) :=
    ⟨by simp [cachedEvents, requestEvents, earlyExchange,
        sampleExchange],
      by simp [cachedEvents, requestEvents, earlyExchange,
        sampleExchange]⟩
  have hLater :
      sampleExchange.Occurs (cachedEvents flag) :=
    ⟨List.mem_append_right _ hStarts.2.1,
      List.mem_append_right _ hAnswers.2.1⟩
  have hKeep : Caching (cachedEvents flag)
      ([] ++ [earlyExchange] ++ [sampleExchange])
      (keep (keep none earlyExchange) sampleExchange) :=
    .exchange (.exchange .start hEarly (hAsks _)) hLater
      (hAsks _)
  rw [keep, if_pos hOk] at hKeep
  exact hKeep

/- A copy that is fetched again after the reload. -/
theorem caches_follow_reloads_sample :
    ∃ (flag : Bool)
        (after : Config (gateway sampleExt sampleState))
        (other : Nat) (path : Path)
        (store : PreparedContentStore)
        (bytes : List UInt8),
      Run (.initial sampleShared) (cachedEvents flag)
          after ∧
        .call other ⟨.loadFromDir path, .ok store⟩ ∈
            cachedEvents flag ∧
          sampleExchange.answer.body.bytes? = some bytes ∧
            ¬Altered bytes store.manifest.bytes := by
  rcases run_cachedEvents with ⟨flag, after, hRun⟩
  have hStart :
      .start 0 .reload ∈ cachedEvents flag :=
    List.mem_append_right _ (clientEvents_started flag).1
  have hAnswer :
      .answer 0
          (reloadedResponse (samplePage "Old").viewCount
            (samplePage "Old").manifestSequence) ∈
        cachedEvents flag :=
    List.mem_append_right _ (clientEvents_answered flag).1
  have hFresh :
      sampleNow <
        (samplePage "Old").manifest.expiresAtUnix := by
    decide
  have hCopy :
      CacheEntry.Fresh
        ⟨sampleNow, sampleExchange.answer.headers⟩
        sampleNow := by
    have hAge :
        maxAge sampleExchange.answer.headers =
          some (manifestAge (samplePage "Old") sampleNow) := by
      rw [sampleExchange_answer]
      exact maxAge_manifest reference_writesVisibleAscii
        hFresh
    have hLater :
        sampleNow <
          sampleNow +
            (manifestAge (samplePage "Old") sampleNow :
              Int) := by
      have hCast := manifestAge_cast hFresh
      omega
    generalize sampleExchange.answer.headers = headers
      at hAge ⊢
    exact ⟨_, hAge, hLater⟩
  have hRecent : ∀ exchange ∈
      [earlyExchange, sampleExchange],
        sampleNow < exchange.date + 3600 →
          AnsweredBefore (cachedEvents flag) 0
            exchange.thread := by
    intro exchange hMem hTime
    rcases List.mem_pair.mp hMem with rfl | rfl
    · exact absurd hTime (by decide)
    · exact (clientEvents_reload flag).append_left _
  rcases caches_follow_reloads reference_readsVisibleAscii
      reference_writesVisibleAscii sample_started rfl hRun
      hStart hAnswer rfl (caching_cachedEvents flag) hCopy
      hRecent with
    ⟨other, path, store, bytes, hLoad, _, _, hBytes, _,
      hSame⟩
  exact ⟨flag, after, other, path, store, bytes, hRun,
    hLoad, hBytes, hSame⟩

end System

end AjarGateway
