import AjarGateway.Serving.ManifestCache
import AjarGateway.System.Solo

/-
  Answers from the store in a running gateway.

  A request that reads a store and has a target in it is
  answered from that store, at the one time that it reads
  from the clock.

  Key theorems include:
    * `System.answered_from_store`
    * `System.expiry_fails_closed`
-/

------------------------------------------------------------
-- The Store And The Time Of An Answer
------------------------------------------------------------

namespace AjarGateway

namespace System

open Http Interleaving Serving Store

variable {lib : Externals} {state : ProxyState}
variable {config : GatewayConfig} {files : FileSystem}
variable {shared : SharedState}
variable {events : List (Event (gateway lib state))}
variable {after : Config (gateway lib state)}
variable {thread : Nat} {request : Request Chunks}
variable {answer : Response Body}
variable {store : PreparedContentStore}

/- The store a request has read is its only snapshot. -/
theorem snapshot_of_read
    (hStarted : Started lib config files state shared)
    (hRun : Run (.initial shared) events after)
    (hStart :
      .start thread (.publicRequest request) ∈ events)
    (hAnswer : .answer thread answer ∈ events)
    (hRead :
      .call thread ⟨.readStore, some store⟩ ∈ events) :
    ∃ env : Surroundings,
      answer = respond lib state env request ∧
        callsOf thread events =
            (answerPublic lib state request).callsWith
              env.reply ∧
          env.snapshot = some store := by
  have hStore := hasStore_of_read hStarted hRun hRead
  rcases snapshot_of_answered hStarted hStore hRun hStart
      hAnswer with
    ⟨env, first, second, _, _, hRespond, hCalls, rfl, _⟩
  refine ⟨env, hRespond, hCalls, ?_⟩
  have hOnce :
      .call thread ⟨.readStore, some store⟩ ∉
        first ++ second :=
    readStore_once hRun hStart
  rw [List.mem_append, List.mem_cons] at hRead
  rw [List.mem_append] at hOnce
  rcases hRead with hFirst | hHere | hSecond
  · exact absurd (.inl hFirst) hOnce
  · injection hHere with _ hCall
    injection hCall with _ hReply
    exact hReply.symm
  · exact absurd (.inr hSecond) hOnce

/-
  A request with a target in the store that it has read is
  answered from that store, at the one time it has read.
-/
theorem answered_from_store
    {target : Target}
    (hStarted : Started lib config files state shared)
    (hRun : Run (.initial shared) events after)
    (hStart :
      .start thread (.publicRequest request) ∈ events)
    (hAnswer : .answer thread answer ∈ events)
    (hRead :
      .call thread ⟨.readStore, some store⟩ ∈ events)
    (hTarget :
      storeTarget lib.http store request = some target) :
    ∃ now,
      InClockRange now ∧
        (∀ time,
          .call thread ⟨.nowUnixSeconds, time⟩ ∈ events ↔
            time = now) ∧
          answer =
            answerFromStore lib store now request.headers
              target := by
  have hStore := hasStore_of_read hStarted hRun hRead
  rcases snapshot_of_read hStarted hRun hStart hAnswer
      hRead with
    ⟨env, hRespond, hCalls, hSnapshot⟩
  have hNow :
      .call thread ⟨.nowUnixSeconds, env.now⟩ ∈ events := by
    rw [← mem_callsOf_iff, hCalls]
    exact nowUnixSeconds_mem_answerPublic lib state env
      hStore hSnapshot hTarget
  refine ⟨env.now, ?_, fun time => ⟨?_, ?_⟩, ?_⟩
  · rcases List.append_of_mem hNow with
      ⟨first, second, rfl⟩
    rcases hRun.performs_of_call with
      ⟨_, _, _, _, _, _, hExec, _, _⟩
    exact Exec.nowUnixSeconds_reply hExec
  · intro hTime
    rw [← mem_callsOf_iff, hCalls] at hTime
    exact Program.reply_of_mem_callsWith
      (S := gatewaySignature) env.reply _ _ hTime
  · rintro rfl
    exact hNow
  · rw [hRespond]
    exact respond_of_target lib state env hStore hSnapshot
      hTarget

end System

end AjarGateway

------------------------------------------------------------
-- Expiry Fails Closed
------------------------------------------------------------

namespace AjarGateway

namespace System

open Http Interleaving Serving Store

variable {lib : Externals} {state : ProxyState}
variable {config : GatewayConfig} {files : FileSystem}
variable {shared : SharedState}
variable {events : List (Event (gateway lib state))}
variable {after : Config (gateway lib state)}

/-
  For every accepted start, every run and every answered
  request that has a target in the store it has read: the
  request reads one clock value; a 200 or a 304 is given
  before the expiry of the manifest in that store; from its
  expiry on the answer is the same problem document for all
  requests and stores; and the max-age of a served manifest
  is at least one, at most an hour and ends by expiry.
-/
theorem expiry_fails_closed
    {startTime : Int}
    {thread : Nat} {request : Request Chunks}
    {answer : Response Body}
    {store : PreparedContentStore} {target : Target}
    (hWrites : lib.http.WritesVisibleAscii)
    (hRange : InClockRange startTime)
    (hStartup :
      startup lib config files startTime =
        .ok (state, shared))
    (hRun : Run (.initial shared) events after)
    (hStart :
      .start thread (.publicRequest request) ∈ events)
    (hAnswer : .answer thread answer ∈ events)
    (hRead :
      .call thread ⟨.readStore, some store⟩ ∈ events)
    (hTarget :
      storeTarget lib.http store request = some target) :
    ∃ now,
      InClockRange now ∧
      (∀ time,
        .call thread ⟨.nowUnixSeconds, time⟩ ∈ events ↔
          time = now) ∧
      (answer.status = 200 ∨ answer.status = 304 →
        now < store.manifest.expiresAtUnix) ∧
      (store.manifest.expiresAtUnix ≤ now →
        answer = expiredProblem ∧
          answer.status = 404 ∧
          answer.headers.getAll ajarErrorCode =
              [.fromStatic "AJAR-VERIFY-EXPIRED"] ∧
            answer.body.bytes? = none) ∧
      (target = .manifest →
        answer.status = 200 →
          ∃ age : Int,
            answer.headers.getAll .cacheControl =
                [.fromStatic ("max-age=" ++ toString age)] ∧
              1 ≤ age ∧
              age ≤
                min 3600
                  (store.manifest.expiresAtUnix - now)) := by
  have hStarted := startup_ok hRange hStartup
  rcases answered_from_store hStarted hRun hStart hAnswer
      hRead hTarget with
    ⟨now, hNow, hUnique, rfl⟩
  refine ⟨now, hNow, hUnique, ?_, ?_, ?_⟩
  · rintro (hOk | hNotModified)
    · exact (answerFromStore_ok hOk).1
    · exact (answerFromStore_not_modified hNotModified).1
  · intro hExpired
    rw [answerFromStore_of_expired hExpired]
    exact ⟨rfl, rfl, by decide, rfl⟩
  · rintro rfl hOk
    rcases answerFromStore_ok hOk with ⟨hFresh, _, hContent⟩
    have hCast := manifestAge_cast hFresh
    rw [hContent, manifest_cacheControl hWrites hFresh]
    exact ⟨manifestAge store now, rfl, by omega, by omega⟩

/- What a request sees in the second of expiry. -/
def expiredEnv : Surroundings :=
  { sampleEnv (samplePage "Old") with now := 1782950400 }

/- The sample view is requested in the second of expiry. -/
theorem expiry_fails_closed_sample :
    ∃ after : Config (gateway sampleExt sampleState),
      Run (.initial sampleShared)
        (requestEvents sampleExt sampleState 0 expiredEnv
          (acceptRequest pageTarget ajarJson))
        after ∧
      respond sampleExt sampleState expiredEnv
          (acceptRequest pageTarget ajarJson) =
        expiredProblem := by
  have hTarget :=
    (storeTarget_acceptRequest reference_readsVisibleAscii
      (pageTarget_routes "Old")).1
  have hAgrees : Agrees expiredEnv sampleShared :=
    ⟨⟨_, rfl, rfl⟩, by decide, by decide⟩
  rcases run_request
      (c := (Config.initial sampleShared :
        Config (gateway sampleExt sampleState)))
      (acceptRequest pageTarget ajarJson) rfl hAgrees
      rfl with
    ⟨after, hRun⟩
  rcases requestEvents_eq sampleExt sampleState 0 expiredEnv
      (acceptRequest pageTarget ajarJson)
      (samplePage "Old") rfl rfl with
    ⟨last, hEvents⟩
  refine ⟨after, hRun, ?_⟩
  have hAnswer :
      .answer 0
          (respond sampleExt sampleState expiredEnv
            (acceptRequest pageTarget ajarJson)) ∈
        requestEvents sampleExt sampleState 0 expiredEnv
          (acceptRequest pageTarget ajarJson) := by
    simp [requestEvents]
  have hClosed := expiry_fails_closed
    reference_writesVisibleAscii sampleNow_inClockRange
    sample_startup hRun List.mem_cons_self hAnswer
    (by simp [hEvents]) hTarget
  rcases hClosed with ⟨now, _, hClock, _, hExpired, _⟩
  have hRead :=
    nowUnixSeconds_mem_answerPublic sampleExt sampleState
      expiredEnv rfl rfl hTarget
  have hNow : 1782950400 = now := by
    rw [← hClock]
    simp only [requestEvents]
    exact List.mem_cons_of_mem _
      (List.mem_append_left _ (List.mem_map_of_mem hRead))
  exact (hExpired (by rw [← hNow]; rfl)).1

end System

end AjarGateway
