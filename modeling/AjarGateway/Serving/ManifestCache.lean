import AjarGateway.Serving.Reference

/-
  An HTTP cache in front of the manifest.

  The cache keeps one response.  A 200 is stored with its
  date; a 304 renews the date and replaces the stored fields
  that it carries itself; the entry is fresh until its date
  plus its max-age.

  Key definitions include:
    * `Serving.CacheEntry`
    * `Serving.receive`
    * `Serving.NeverStale`
    * `Serving.RevalidatesInTime`

  Key theorems include:
    * `Serving.maxAge_manifest`
    * `Serving.holdsLast_cacheAfter`
    * `Serving.neverStale_iff`
-/

------------------------------------------------------------
-- The Cache
------------------------------------------------------------

namespace AjarGateway

namespace Serving

open Http Store

/- A stored response of a cache. -/
structure CacheEntry where
  date : Int
  headers : HeaderMap

/- The max-age directive of a Cache-Control value. -/
def maxAgeOf (value : HeaderValue) : Option Nat :=
  ((asciiText value.bytes).toList.splitOn ',').findSome?
    fun directive =>
      (Rust.stripPrefix "max-age=".toList
        (Rust.toAsciiLowercase (Rust.trim directive))).bind
        Rust.parseU64

def maxAge (headers : HeaderMap) : Option Nat :=
  (headers.getAll .cacheControl).findSome? maxAgeOf

/- An entry may be used without asking the gateway. -/
def CacheEntry.Fresh
    (entry : CacheEntry)
    (time : Int) : Prop :=
  ∃ age,
    maxAge entry.headers = some age ∧
      time < entry.date + age

/- Stored fields, replaced by those a response carries. -/
def refreshHeaders (stored carried : HeaderMap) : HeaderMap :=
  ⟨(carried.keys.foldl HeaderMap.remove stored).entries ++
    carried.entries⟩

/- What the cache keeps after a response at a time. -/
def receive
    (cache : Option CacheEntry)
    (now : Int)
    (response : Response Body) : Option CacheEntry :=
  if response.status = 200 then
    some ⟨now, response.headers⟩
  else if response.status = 304 then
    cache.map fun entry =>
      ⟨now, refreshHeaders entry.headers response.headers⟩
  else
    cache

end Serving

end AjarGateway

------------------------------------------------------------
-- The Max-Age Of The Manifest
------------------------------------------------------------

namespace AjarGateway

namespace Serving

open Http Store

/- A character that a directive is read back with. -/
def isPlainChar (c : Char) : Bool :=
  isVisibleChar c && !Rust.isWhitespace c && c != ',' &&
    Rust.asciiLowercase c == c

theorem isPlainChar_of_isDigit
    (c : Char)
    (hDigit : c.isDigit = true) :
    isPlainChar c = true := by
  have hDigits :
      ∀ n < 58, 48 ≤ n → isPlainChar (Char.ofNat n) = true := by
    decide
  simp only [Char.isDigit, Bool.and_eq_true,
    decide_eq_true_eq] at hDigit
  have hLow : 48 ≤ c.toNat :=
    UInt32.le_iff_toNat_le.mp hDigit.1
  have hHigh : c.toNat ≤ 57 :=
    UInt32.le_iff_toNat_le.mp hDigit.2
  rw [← Char.ofNat_toNat c]
  exact hDigits c.toNat (by omega) hLow

theorem maxAge_toList (age : Nat) :
    ("max-age=" ++ toString (age : Int)).toList =
      "max-age=".toList ++ Nat.toDigits 10 age := by
  rw [String.toList_append, Int.toString_eq_repr,
    Int.repr_eq_if, if_pos (Int.natCast_nonneg age),
    Int.toNat_natCast, Nat.toList_repr]

theorem maxAge_plain (age : Nat) :
    ∀ c ∈ ("max-age=" ++ toString (age : Int)).toList,
      isPlainChar c = true := by
  rw [maxAge_toList]
  intro c hc
  rcases List.mem_append.mp hc with hc | hc
  · have hPrefix :
        ∀ c ∈ "max-age=".toList, isPlainChar c = true :=
      List.all_eq_true.mp (by decide)
    exact hPrefix c hc
  · exact isPlainChar_of_isDigit c
      (Nat.isDigit_of_mem_toDigits (by decide) (by decide)
        hc)

/- A written max-age is read back. -/
theorem maxAgeOf_text
    (age : Nat)
    (hBound : age < 2 ^ 64) :
    maxAgeOf
        (.fromStatic ("max-age=" ++ toString (age : Int))) =
      some age := by
  have hPlain := maxAge_plain age
  have hText := maxAge_toList age
  generalize "max-age=" ++ toString (age : Int) = text
    at hPlain hText ⊢
  have hParts : ∀ c ∈ text.toList,
      isVisibleChar c = true ∧ Rust.isWhitespace c = false ∧
        c ≠ ',' ∧ Rust.asciiLowercase c = c := by
    intro c hc
    simpa [isPlainChar, and_assoc] using hPlain c hc
  have hAscii : asciiText (Rust.utf8 text) = text :=
    asciiText_utf8 text
      (isVisibleChar_ascii fun c hc => (hParts c hc).1)
  have hOne : text.toList.splitOn ',' = [text.toList] :=
    List.splitOn_eq_singleton fun hComma =>
      (hParts ',' hComma).2.2.1 rfl
  have hTrim : Rust.trim text.toList = text.toList :=
    Rust.trimMatches_of_none _ _ fun c hc =>
      (hParts c hc).2.1
  have hLower :
      Rust.toAsciiLowercase text.toList = text.toList :=
    Rust.toAsciiLowercase_of_lower _ fun c hc =>
      (hParts c hc).2.2.2
  have hStrip :
      Rust.stripPrefix "max-age=".toList text.toList =
        some (Nat.toDigits 10 age) := by
    rw [hText]
    simp [Rust.stripPrefix]
  rw [maxAgeOf, HeaderValue.fromStatic, hAscii, hOne,
    List.findSome?_singleton, hTrim, hLower, hStrip]
  exact Rust.parseU64_toDigits age hBound

end Serving

end AjarGateway

------------------------------------------------------------
-- Answers To The Cache
------------------------------------------------------------

namespace AjarGateway

namespace Serving

open Http Store

variable {lib : Externals} {state : ProxyState}
variable {store : PreparedContentStore}

/- The max-age of a manifest served at a time. -/
def manifestAge
    (store : PreparedContentStore)
    (now : Int) : Nat :=
  (min (store.manifest.expiresAtUnix - now) 3600).toNat

theorem manifestAge_cast
    {now : Int}
    (hFresh : now < store.manifest.expiresAtUnix) :
    (manifestAge store now : Int) =
      min (store.manifest.expiresAtUnix - now) 3600 := by
  unfold manifestAge
  omega

/- The manifest is served with its max-age. -/
theorem manifest_cacheControl
    {now : Int}
    (hWrites : lib.http.WritesVisibleAscii)
    (hFresh : now < store.manifest.expiresAtUnix) :
    (Target.manifest.content lib store now).headers.getAll
        .cacheControl =
      [.fromStatic
        ("max-age=" ++
          toString (manifestAge store now : Int))] := by
  have hSeconds :
      max 0
          (min (store.manifest.expiresAtUnix - now) 3600) =
        (manifestAge store now : Int) := by
    rw [manifestAge_cast hFresh]
    omega
  have hLegal := hWrites.text
    ("max-age=" ++ toString (manifestAge store now : Int))
    (fun c hc => by
      have hPlain := maxAge_plain _ c hc
      simp only [isPlainChar, Bool.and_eq_true] at hPlain
      exact hPlain.1.1.1)
  rw [Target.content, hSeconds, getAll_withHeader,
    if_neg (by decide), getAll_withHeader, if_pos rfl,
    hLegal]

theorem maxAge_manifest
    {now : Int}
    (hWrites : lib.http.WritesVisibleAscii)
    (hFresh : now < store.manifest.expiresAtUnix) :
    maxAge (Target.manifest.content lib store now).headers =
      some (manifestAge store now) := by
  have hBound : manifestAge store now < 2 ^ 64 := by
    have hCast := manifestAge_cast hFresh
    omega
  rw [maxAge, manifest_cacheControl hWrites hFresh,
    List.findSome?_singleton, maxAgeOf_text _ hBound]

/- One GET request for the manifest, with its surroundings. -/
structure ManifestVisit
    (store : PreparedContentStore) where
  request : Request Chunks
  env : Surroundings
  isGet : request.method = .get
  path : request.uri.path = manifestPath
  snapshot : env.snapshot = some store

namespace ManifestVisit

/- The visit is conditional on the tag of the manifest. -/
def revalidates
    (lib : Externals)
    (visit : ManifestVisit store) : Bool :=
  ifNoneMatchMatches lib.http visit.request.headers
    store.manifest.etag

/- What the gateway answers. -/
def answer
    (lib : Externals)
    (state : ProxyState)
    (visit : ManifestVisit store) : Response Body :=
  respond lib state visit.env visit.request

theorem answer_eq
    (visit : ManifestVisit store)
    (hStore : state.hasStore = true) :
    visit.answer lib state =
      answerFromStore lib store visit.env.now
        visit.request.headers .manifest :=
  respond_of_target lib state visit.env hStore
    visit.snapshot
    (storeTarget_of_manifest visit.isGet visit.path)

end ManifestVisit

/- The cache after some visits. -/
def cacheAfter
    (lib : Externals)
    (state : ProxyState)
    (visits : List (ManifestVisit store)) :
    Option CacheEntry :=
  visits.foldl
    (fun cache visit =>
      receive cache visit.env.now (visit.answer lib state))
    none

theorem cacheAfter_append
    (first rest : List (ManifestVisit store)) :
    cacheAfter lib state (first ++ rest) =
      rest.foldl
        (fun cache visit =>
          receive cache visit.env.now
            (visit.answer lib state))
        (cacheAfter lib state first) :=
  List.foldl_append

/-
  The manifest is never fresh once it has expired: at no
  time between two visits, and not after the last of them.
-/
def NeverStale
    (lib : Externals)
    (state : ProxyState)
    (visits : List (ManifestVisit store)) : Prop :=
  ∀ first rest time,
    visits = first ++ rest →
    (∀ visit ∈ first, visit.env.now ≤ time) →
    (∀ visit ∈ rest, time ≤ visit.env.now) →
    store.manifest.expiresAtUnix ≤ time →
      ∀ entry ∈ cacheAfter lib state first,
        ¬ entry.Fresh time

/- An expired manifest leaves the cache as it is. -/
theorem receive_of_expired
    {visit : ManifestVisit store}
    {cache : Option CacheEntry}
    (hStore : state.hasStore = true)
    (hExpired :
      store.manifest.expiresAtUnix ≤ visit.env.now) :
    receive cache visit.env.now (visit.answer lib state) =
      cache := by
  rw [visit.answer_eq hStore,
    answerFromStore_of_expired hExpired]
  rfl

theorem cacheAfter_of_expired
    (hStore : state.hasStore = true)
    (first : List (ManifestVisit store))
    {rest : List (ManifestVisit store)}
    (hExpired : ∀ visit ∈ rest,
      store.manifest.expiresAtUnix ≤ visit.env.now) :
    cacheAfter lib state (first ++ rest) =
      cacheAfter lib state first := by
  rw [cacheAfter_append]
  generalize cacheAfter lib state first = cache
  induction rest with
  | nil => rfl
  | cons visit rest ih =>
      rw [List.forall_mem_cons] at hExpired
      rw [List.foldl_cons,
        receive_of_expired hStore hExpired.1]
      exact ih hExpired.2

/- A 304 only renews the date. -/
theorem receive_of_revalidates
    {visit : ManifestVisit store}
    {cache : Option CacheEntry}
    (hStore : state.hasStore = true)
    (hFresh :
      visit.env.now < store.manifest.expiresAtUnix)
    (hMatches : visit.revalidates lib = true) :
    receive cache visit.env.now (visit.answer lib state) =
      cache.map fun entry =>
        ⟨visit.env.now, entry.headers⟩ := by
  have hAnswer :
      visit.answer lib state = emptyResponse 304 := by
    rw [visit.answer_eq hStore, answerFromStore,
      if_neg (not_le.mpr hFresh)]
    exact if_pos hMatches
  have hKept (stored : HeaderMap) :
      refreshHeaders stored (emptyResponse 304).headers =
        stored := by
    simp [refreshHeaders, emptyResponse, Response.new,
      HeaderMap.keys, HeaderMap.empty]
  rw [hAnswer, receive, if_neg (by decide),
    if_pos (emptyResponse_status 304)]
  simp only [hKept]

/- A full answer is stored. -/
theorem receive_of_full
    {visit : ManifestVisit store}
    {cache : Option CacheEntry}
    (hStore : state.hasStore = true)
    (hFresh :
      visit.env.now < store.manifest.expiresAtUnix)
    (hMatches : visit.revalidates lib = false) :
    receive cache visit.env.now (visit.answer lib state) =
      some ⟨visit.env.now,
        (Target.manifest.content lib store
          visit.env.now).headers⟩ := by
  have hAnswer :
      visit.answer lib state =
        Target.manifest.content lib store visit.env.now :=
    (visit.answer_eq hStore).trans
      (answerFromStore_of_fresh hFresh hMatches)
  rw [hAnswer, receive,
    if_pos
      (Target.manifest.content_status lib store visit.env.now)]

end Serving

end AjarGateway

------------------------------------------------------------
-- Revalidation In Time
------------------------------------------------------------

namespace AjarGateway

namespace Serving

open Http Store

variable {lib : Externals} {state : ProxyState}
variable {store : PreparedContentStore}

/- The time of the last of some visits before expiry. -/
def lastVisit
    (visits : List (ManifestVisit store)) : Option Int :=
  ((visits.filter fun visit =>
    visit.env.now < store.manifest.expiresAtUnix).getLast?).map
      (·.env.now)

/- The time of the last full answer. -/
def lastFull
    (lib : Externals)
    (visits : List (ManifestVisit store)) : Option Int :=
  lastVisit (visits.filter (!·.revalidates lib))

/-
  The last visit before expiry comes in the second of the
  last full answer, or at least an hour before expiry.
-/
def RevalidatesInTime
    (lib : Externals)
    (visits : List (ManifestVisit store)) : Prop :=
  ∀ full ∈ lastFull lib visits,
    ∀ last ∈ lastVisit visits,
      last = full ∨
        last + 3600 ≤ store.manifest.expiresAtUnix

theorem lastVisit_concat
    (visits : List (ManifestVisit store))
    (visit : ManifestVisit store) :
    lastVisit (visits ++ [visit]) =
      if store.manifest.expiresAtUnix ≤ visit.env.now then
        lastVisit visits
      else
        some visit.env.now := by
  by_cases hExpired :
      store.manifest.expiresAtUnix ≤ visit.env.now
  · simp [lastVisit, hExpired]
  · simp [lastVisit, hExpired, not_le.mp hExpired]

theorem lastFull_concat
    (visits : List (ManifestVisit store))
    (visit : ManifestVisit store) :
    lastFull lib (visits ++ [visit]) =
      if visit.revalidates lib ∨
          store.manifest.expiresAtUnix ≤ visit.env.now then
        lastFull lib visits
      else
        some visit.env.now := by
  cases hMatches : visit.revalidates lib with
  | true => simp [lastFull, hMatches]
  | false => simp [lastFull, hMatches, lastVisit_concat]

theorem mem_lastVisit
    {visits : List (ManifestVisit store)}
    {last : Int}
    (hLast : lastVisit visits = some last) :
    ∃ visit ∈ visits, visit.env.now = last := by
  rw [lastVisit, Option.map_eq_some_iff] at hLast
  rcases hLast with ⟨visit, hVisit, hNow⟩
  have hMem := List.mem_of_getLast? hVisit
  exact ⟨visit, (List.mem_filter.mp hMem).1, hNow⟩

/-
  The invariant of the visits: the cache holds the last full
  answer, dated by the last visit before expiry.
-/
def HoldsLast
    (lib : Externals)
    (visits : List (ManifestVisit store))
    (cache : Option CacheEntry) : Prop :=
  match lastFull lib visits with
  | none => cache = none
  | some full =>
      full < store.manifest.expiresAtUnix ∧
        ∃ entry,
          cache = some entry ∧
            lastVisit visits = some entry.date ∧
            full ≤ entry.date ∧
              maxAge entry.headers =
                some (manifestAge store full)

theorem holdsLast_cacheAfter
    (hWrites : lib.http.WritesVisibleAscii)
    (hStore : state.hasStore = true)
    (visits : List (ManifestVisit store))
    (hOrdered :
      visits.Pairwise fun first second =>
        first.env.now ≤ second.env.now) :
    HoldsLast lib visits (cacheAfter lib state visits) := by
  induction visits using List.reverseRecOn with
  | nil => rfl
  | append_singleton visits visit ih =>
      rw [List.pairwise_append] at hOrdered
      have hHolds := ih hOrdered.1
      have hLate : ∀ other ∈ visits,
          other.env.now ≤ visit.env.now :=
        fun other hOther =>
          hOrdered.2.2 other hOther visit (by simp)
      rw [HoldsLast] at hHolds
      rw [HoldsLast, cacheAfter_append, List.foldl_cons,
        List.foldl_nil, lastVisit_concat, lastFull_concat]
      by_cases hExpired :
          store.manifest.expiresAtUnix ≤ visit.env.now
      · rw [if_pos (.inr hExpired), if_pos hExpired,
          receive_of_expired hStore hExpired]
        exact hHolds
      · have hFresh := not_le.mp hExpired
        rw [if_neg hExpired]
        cases hMatches : visit.revalidates lib with
        | false =>
            rw [receive_of_full hStore hFresh hMatches,
              if_neg (by simp [hFresh])]
            exact ⟨hFresh, _, rfl, rfl, le_rfl,
              maxAge_manifest hWrites hFresh⟩
        | true =>
            rw [receive_of_revalidates hStore hFresh
              hMatches, if_pos (.inl rfl)]
            cases hFull : lastFull lib visits with
            | none =>
                rw [hFull] at hHolds
                rw [hHolds]
                rfl
            | some full =>
                rw [hFull] at hHolds
                rcases hHolds with
                  ⟨hFullFresh, entry, hEntry, hLast, hLe,
                    hAge⟩
                rcases mem_lastVisit hLast with
                  ⟨other, hOther, hDate⟩
                have hRenewed : full ≤ visit.env.now :=
                  hLe.trans (hDate ▸ hLate other hOther)
                rw [hEntry]
                exact ⟨hFullFresh, _, rfl, rfl, hRenewed,
                  hAge⟩

end Serving

end AjarGateway

------------------------------------------------------------
-- The Cache At Expiry
------------------------------------------------------------

namespace AjarGateway

namespace Serving

open Http Store

variable {lib : Externals} {state : ProxyState}
variable {store : PreparedContentStore}

theorem CacheEntry.Fresh.earlier
    {entry : CacheEntry} {time earlier : Int}
    (hFresh : entry.Fresh time)
    (hLe : earlier ≤ time) :
    entry.Fresh earlier := by
  rcases hFresh with ⟨age, hAge, hTime⟩
  exact ⟨age, hAge, by omega⟩

/- Ordered visits come before expiry, and then after it. -/
theorem exists_split_at_expiry
    (visits : List (ManifestVisit store))
    (hOrdered :
      visits.Pairwise fun first second =>
        first.env.now ≤ second.env.now) :
    ∃ first rest,
      visits = first ++ rest ∧
        (∀ visit ∈ first,
          visit.env.now ≤ store.manifest.expiresAtUnix) ∧
        ∀ visit ∈ rest,
          store.manifest.expiresAtUnix ≤ visit.env.now := by
  induction visits with
  | nil => exact ⟨[], [], rfl, by simp, by simp⟩
  | cons visit visits ih =>
      rw [List.pairwise_cons] at hOrdered
      by_cases hExpired :
          store.manifest.expiresAtUnix ≤ visit.env.now
      · refine ⟨[], visit :: visits, rfl, by simp, ?_⟩
        rw [List.forall_mem_cons]
        exact ⟨hExpired, fun other hOther =>
          hExpired.trans (hOrdered.1 other hOther)⟩
      · rcases ih hOrdered.2 with
          ⟨first, rest, rfl, hFirst, hRest⟩
        refine ⟨visit :: first, rest, rfl, ?_, hRest⟩
        rw [List.forall_mem_cons]
        exact ⟨(not_le.mp hExpired).le, hFirst⟩

/- Only the entry that is left at expiry matters. -/
theorem neverStale_iff_at_expiry
    (hStore : state.hasStore = true)
    {visits : List (ManifestVisit store)}
    (hOrdered :
      visits.Pairwise fun first second =>
        first.env.now ≤ second.env.now) :
    NeverStale lib state visits ↔
      ∀ entry ∈ cacheAfter lib state visits,
        ¬ entry.Fresh store.manifest.expiresAtUnix := by
  constructor
  · intro hNever
    rcases exists_split_at_expiry visits hOrdered with
      ⟨first, rest, rfl, hFirst, hRest⟩
    rw [cacheAfter_of_expired hStore first hRest]
    exact hNever first rest _ rfl hFirst hRest le_rfl
  · rintro hExpiry first rest time rfl _ hRest hTime entry
      hEntry hFresh
    rw [cacheAfter_of_expired hStore first fun visit hVisit =>
      hTime.trans (hRest visit hVisit)] at hExpiry
    exact hExpiry entry hEntry (hFresh.earlier hTime)

/- A renewed answer against the expiry of the manifest. -/
theorem not_fresh_at_expiry_iff
    {entry : CacheEntry} {full : Int}
    (hFull : full < store.manifest.expiresAtUnix)
    (hLe : full ≤ entry.date)
    (hAge :
      maxAge entry.headers =
        some (manifestAge store full)) :
    ¬ entry.Fresh store.manifest.expiresAtUnix ↔
      entry.date = full ∨
        entry.date + 3600 ≤
          store.manifest.expiresAtUnix := by
  have hCast := manifestAge_cast hFull
  have hFresh :
      entry.Fresh store.manifest.expiresAtUnix ↔
        store.manifest.expiresAtUnix <
          entry.date + manifestAge store full := by
    constructor
    · rintro ⟨age, hFound, hTime⟩
      rw [hAge] at hFound
      cases hFound
      exact hTime
    · intro hTime
      exact ⟨_, hAge, hTime⟩
  rw [hFresh]
  omega

/-
  For every store and every sequence of GET requests for its
  manifest at non-decreasing times, a cache never holds the
  manifest as fresh after its expiry exactly when the last
  request before expiry is not a successful revalidation
  within the last hour, later than the last full answer.
-/
theorem neverStale_iff
    (hWrites : lib.http.WritesVisibleAscii)
    (hStore : state.hasStore = true)
    (visits : List (ManifestVisit store))
    (hOrdered :
      visits.Pairwise fun first second =>
        first.env.now ≤ second.env.now) :
    NeverStale lib state visits ↔
      RevalidatesInTime lib visits := by
  have hHolds :=
    holdsLast_cacheAfter hWrites hStore visits hOrdered
  rw [neverStale_iff_at_expiry hStore hOrdered,
    RevalidatesInTime]
  rw [HoldsLast] at hHolds
  cases hFull : lastFull lib visits with
  | none =>
      rw [hFull] at hHolds
      rw [hHolds]
      simp
  | some full =>
      rw [hFull] at hHolds
      rcases hHolds with
        ⟨hFresh, entry, hEntry, hLast, hLe, hAge⟩
      rw [hEntry, hLast]
      simpa using not_fresh_at_expiry_iff hFresh hLe hAge

/- A visit of the sample manifest. -/
def sampleVisit
    (now : Int)
    (headers : HeaderMap) :
    ManifestVisit (samplePage "Old") where
  request := getRequest manifestTarget headers
  env :=
    { (default : Surroundings) with
      snapshot := some (samplePage "Old")
      now := now }
  isGet := rfl
  path := manifestTarget_path
  snapshot := rfl

/- A revalidation with the tag of the sample manifest. -/
def sampleConditional : HeaderMap :=
  .single .ifNoneMatch
    (.fromStatic (samplePage "Old").manifest.etag)

/- A revalidation an hour after the full answer. -/
theorem neverStale_iff_sample :
    NeverStale sampleExt sampleState
      [sampleVisit sampleNow .empty,
        sampleVisit (sampleNow + 3600)
          sampleConditional] := by
  apply (neverStale_iff reference_writesVisibleAscii rfl _
    (by decide)).mpr
  have hLast :
      lastVisit
          [sampleVisit sampleNow .empty,
            sampleVisit (sampleNow + 3600)
              sampleConditional] =
        some (sampleNow + 3600) := by
    decide
  intro full _ last hFound
  rw [hLast] at hFound
  cases hFound
  right
  decide

/-
  The sample manifest expires at 1782950400.  It is fetched
  an hour before that and revalidated in its last second.
-/
theorem neverStale_revalidated_late :
    [sampleVisit 1782946800 .empty,
        sampleVisit 1782950399 sampleConditional].Pairwise
      (fun first second =>
        first.env.now ≤ second.env.now) ∧
    ¬ NeverStale sampleExt sampleState
      [sampleVisit 1782946800 .empty,
        sampleVisit 1782950399 sampleConditional] := by
  have hOrdered :
      [sampleVisit 1782946800 .empty,
          sampleVisit 1782950399 sampleConditional].Pairwise
        (fun first second =>
          first.env.now ≤ second.env.now) := by
    decide
  refine ⟨hOrdered, ?_⟩
  have hStore : sampleState.hasStore = true := rfl
  have hWrites : sampleExt.http.WritesVisibleAscii :=
    reference_writesVisibleAscii
  have hHolds :=
    holdsLast_cacheAfter hWrites hStore _ hOrdered
  have hFull :
      lastFull sampleExt
          [sampleVisit 1782946800 .empty,
            sampleVisit 1782950399 sampleConditional] =
        some 1782946800 := by
    decide +kernel
  have hLast :
      lastVisit
          [sampleVisit 1782946800 .empty,
            sampleVisit 1782950399 sampleConditional] =
        some 1782950399 := by
    decide
  rw [HoldsLast, hFull] at hHolds
  rcases hHolds with ⟨hFresh, entry, hEntry, hDate, hLe, hAge⟩
  rw [hLast] at hDate
  have hRenewed := Option.some.inj hDate
  rw [neverStale_iff_at_expiry hStore hOrdered, hEntry]
  intro hNever
  have hInTime :=
    (not_fresh_at_expiry_iff hFresh hLe hAge).mp
      (hNever entry rfl)
  rw [← hRenewed] at hInTime
  revert hInTime
  decide

end Serving

end AjarGateway
