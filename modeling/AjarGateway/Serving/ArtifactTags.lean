import AjarGateway.Serving.Content
import AjarGateway.Serving.Reference
import AjarGateway.Store.StrongEtag

/-
  The entity tags of an altered manifest or view index.

  A load gives both artifacts the tag of their bytes, and
  both are served with it.  So replacing one of them by an
  altered file shows in its tag.

  Key definitions include:
    * `Store.Loaded`
    * `Serving.Target.IsArtifact`
    * `Serving.StoredWith`
    * `Serving.ServedWith`
    * `Serving.TagsDiffer`

  Key theorems include:
    * `Serving.etag_artifact`
    * `Serving.altered_artifact_has_other_tag`
-/

------------------------------------------------------------
-- Loaded Artifacts
------------------------------------------------------------

namespace AjarGateway

namespace Store

open Interleaving

/- Some load has returned the store, from any replies. -/
def Loaded
    (json : SerdeJson)
    (store : PreparedContentStore) : Prop :=
  ∃ path calls,
    Performs (loadFromDir json path).run calls
      (.ret (.ok store))

theorem loaded_of_loadFrom
    {json : SerdeJson} {path : Path}
    {files : FileSystem} {now : Int}
    {store : PreparedContentStore}
    (hLoad : loadFrom json path files now = .ok store) :
    Loaded json store := by
  have hCalls :=
    performs_callsWith (files.reply now)
      (loadFromDir json path).run
  rw [← loadFrom, hLoad] at hCalls
  exact ⟨path, _, hCalls⟩

end Store

namespace Serving

open Store

/- The target is served from an artifact with its own tag. -/
def Target.IsArtifact (target : Target) : Prop :=
  target = .manifest ∨ target = .viewIndex

/- The label that the tag of an artifact is hashed with. -/
def Target.label : Target → List UInt8
| .manifest => Rust.utf8 "manifest"
| _ => Rust.utf8 "view-index"

/- A load gives each artifact the tag of its bytes. -/
theorem etag_artifact
    {json : SerdeJson} {store : PreparedContentStore}
    {target : Target}
    (hLoaded : Loaded json store)
    (hArtifact : target.IsArtifact) :
    target.etag store =
      strongEtag target.label (target.bytes store) none := by
  rcases hLoaded with ⟨path, calls, hPerforms⟩
  rcases (performs_loadFromDir_ok _ _ _ _ hPerforms).order
    with ⟨now, _, _, _, _, hAccepted, _⟩
  rcases hArtifact with rfl | rfl
  · exact hAccepted.manifestEtag
  · exact hAccepted.indexEtag

end Serving

end AjarGateway

------------------------------------------------------------
-- Tags In Headers
------------------------------------------------------------

namespace AjarGateway

namespace Serving

open Http Store

theorem isVisibleChar_digitChar (digit : Nat) :
    isVisibleChar (Nat.digitChar digit) = true := by
  by_cases hLarge : 16 ≤ digit
  · rw [Nat.digitChar_eq_star.mpr hLarge]
    decide
  · have hSmall :
        ∀ n < 16, isVisibleChar (Nat.digitChar n) = true := by
      decide
    exact hSmall digit (by omega)

theorem isVisibleChar_toDigits
    {base : Nat}
    (hBase : 1 < base)
    (n : Nat) :
    ∀ c ∈ Nat.toDigits base n, isVisibleChar c = true := by
  induction n using Nat.strong_induction_on with
  | _ n ih =>
      intro c hMem
      rw [Nat.toDigits_eq_if hBase] at hMem
      split at hMem
      · rw [List.mem_singleton] at hMem
        rw [hMem]
        exact isVisibleChar_digitChar n
      · have hSmaller : n / base < n :=
          Nat.div_lt_self (by omega) hBase
        rcases List.mem_append.mp hMem with hRest | hLast
        · exact ih _ hSmaller c hRest
        · rw [List.mem_singleton] at hLast
          rw [hLast]
          exact isVisibleChar_digitChar _

/- A tag can be sent as it is. -/
theorem isVisibleChar_strongEtag
    (label bytes : List UInt8) :
    ∀ c ∈ (strongEtag label bytes none).toList,
      isVisibleChar c = true := by
  intro c hMem
  rw [strongEtag_toList, List.leftpad] at hMem
  simp only [List.mem_cons, List.mem_append,
    List.mem_replicate, List.not_mem_nil, or_false] at hMem
  rcases hMem with
    rfl | (⟨_, rfl⟩ | hHash) | rfl | hLength | rfl
  · decide
  · decide
  · exact isVisibleChar_toDigits (by decide) _ c hHash
  · decide
  · exact isVisibleChar_toDigits (by decide) _ c hLength
  · decide

end Serving

end AjarGateway

------------------------------------------------------------
-- Altered Artifacts
------------------------------------------------------------

namespace AjarGateway

namespace Serving

open Hashing Http Store

/- A loaded store holds bytes of an artifact, with a tag. -/
def StoredWith
    (json : SerdeJson)
    (target : Target)
    (bytes : List UInt8)
    (tag : String) : Prop :=
  ∃ store,
    Loaded json store ∧
      target.bytes store = bytes ∧ target.etag store = tag

/- The handler of an artifact serves bytes in an answer. -/
def ServedWith
    (lib : Externals)
    (target : Target)
    (bytes : List UInt8)
    (answer : Response Body) : Prop :=
  ∃ (store : PreparedContentStore) (env : Surroundings)
      (headers : HeaderMap),
    Loaded lib.json store ∧
      target.bytes store = bytes ∧
        answer =
            (serveTarget lib store headers target).answerWith
              env.reply ∧
          answer.status = 200

theorem StoredWith.tag_eq
    {json : SerdeJson} {target : Target}
    {bytes : List UInt8} {tag : String}
    (hStored : StoredWith json target bytes tag)
    (hArtifact : target.IsArtifact) :
    tag = strongEtag target.label bytes none := by
  rcases hStored with ⟨store, hLoaded, rfl, rfl⟩
  exact etag_artifact hLoaded hArtifact

/- A served artifact carries the tag of its bytes. -/
theorem ServedWith.etag_eq
    {lib : Externals} {target : Target}
    {bytes : List UInt8} {answer : Response Body}
    (hServed : ServedWith lib target bytes answer)
    (hArtifact : target.IsArtifact)
    (hWrites : lib.http.WritesVisibleAscii) :
    answer.headers.getAll .etag =
      [.fromStatic
        (strongEtag target.label bytes none)] := by
  rcases hServed with
    ⟨store, env, headers, hLoaded, rfl, hAnswer, hStatus⟩
  rw [answerWith_serveTarget] at hAnswer
  rw [hAnswer] at hStatus
  rw [hAnswer, (answerFromStore_ok hStatus).2.2,
    Target.content_etag, etag_artifact hLoaded hArtifact,
    hWrites.text _ (isVisibleChar_strongEtag _ _)]
  rfl

/-
  Two byte strings have different tags: as such, as the
  bytes of the manifest or the view index of loaded stores,
  and in the headers of the answers that serve them.
-/
structure TagsDiffer
    (lib : Externals)
    (first second : List UInt8) : Prop where
  hashed : ∀ label,
    strongEtag label first none ≠
      strongEtag label second none
  stored : ∀ target : Target,
    target.IsArtifact →
      ∀ tag tag',
        StoredWith lib.json target first tag →
          StoredWith lib.json target second tag' →
            tag ≠ tag'
  served : ∀ target : Target,
    target.IsArtifact →
      lib.http.WritesVisibleAscii →
        ∀ answer answer',
          ServedWith lib target first answer →
            ServedWith lib target second answer' →
              answer.headers.getAll .etag ≠
                answer'.headers.getAll .etag

/-
  Content of another length, or with one byte altered, has
  another tag.
-/
theorem altered_artifact_has_other_tag
    (lib : Externals)
    {first second : List UInt8}
    (hAltered : Altered first second) :
    TagsDiffer lib first second := by
  have hTags := strongEtag_ne_of_altered hAltered
  constructor
  case hashed => exact hTags
  case stored =>
    intro target hArtifact tag tag' hStored hStored'
    rw [hStored.tag_eq hArtifact, hStored'.tag_eq hArtifact]
    exact hTags target.label
  case served =>
    intro target hArtifact hWrites answer answer' hServed
      hServed' hSame
    rw [hServed.etag_eq hArtifact hWrites,
      hServed'.etag_eq hArtifact hWrites,
      List.singleton_inj] at hSame
    injection hSame with hBytes
    exact hTags target.label (Rust.utf8_injective hBytes)

/- The sample manifests differ in the digit of a sequence. -/
theorem sequencePage_manifests_differ :
    DifferAtOne (sequencePage "1" 1).manifest.bytes
      (sequencePage "0" 0).manifest.bytes :=
  (differAtOne_iff _ _).mpr
    ⟨(sequencePage "1" 1).manifest.bytes.take 165, 49, 48,
      (sequencePage "1" 1).manifest.bytes.drop 166,
      by decide +kernel, by decide +kernel, by decide⟩

/- A loaded sample is stored and served. -/
theorem sequencePage_tagged
    {text : String} {sequence : Int}
    (hLoads :
      loadFrom (documentExt sequenceDocuments).json sampleDir
          (sequencePage text sequence).files sampleNow =
        .ok ((sequencePage text sequence).store "/page")) :
    ∃ tag answer,
      StoredWith (documentExt sequenceDocuments).json
          .manifest
          (sequencePage text sequence).manifest.bytes tag ∧
        ServedWith (documentExt sequenceDocuments) .manifest
          (sequencePage text sequence).manifest.bytes
          answer := by
  have hLoaded := loaded_of_loadFrom hLoads
  refine ⟨_, _, ⟨_, hLoaded, rfl, rfl⟩, _,
    sampleEnv ((sequencePage text sequence).store "/page"),
    .empty, hLoaded, rfl, rfl, ?_⟩
  rw [answerWith_serveTarget, answerFromStore_of_fresh]
  · exact Target.content_status _ _ _ _
  · show sampleNow < 1782950400
    decide
  · rfl

/- Their tags differ where they are stored and served. -/
theorem altered_artifact_has_other_tag_sample :
    ∃ (tag tag' : String) (answer answer' : Response Body),
      (StoredWith (documentExt sequenceDocuments).json
          .manifest (sequencePage "1" 1).manifest.bytes tag ∧
        StoredWith (documentExt sequenceDocuments).json
          .manifest (sequencePage "0" 0).manifest.bytes
            tag' ∧
          tag ≠ tag') ∧
        ServedWith (documentExt sequenceDocuments) .manifest
          (sequencePage "1" 1).manifest.bytes answer ∧
        ServedWith (documentExt sequenceDocuments) .manifest
          (sequencePage "0" 0).manifest.bytes answer' ∧
          answer.headers.getAll .etag ≠
            answer'.headers.getAll .etag := by
  rcases sequencePage_tagged sequencePage_one_loads with
    ⟨tag, answer, hStored, hServed⟩
  rcases sequencePage_tagged sequencePage_zero_loads with
    ⟨tag', answer', hStored', hServed'⟩
  have hDiffer :=
    altered_artifact_has_other_tag
      (documentExt sequenceDocuments)
      (.inr sequencePage_manifests_differ)
  exact ⟨tag, tag', answer, answer',
    ⟨hStored, hStored',
      hDiffer.stored .manifest (.inl rfl) _ _ hStored
        hStored'⟩,
    hServed, hServed',
    hDiffer.served .manifest (.inl rfl)
      reference_writesVisibleAscii _ _ hServed hServed'⟩

end Serving

end AjarGateway
