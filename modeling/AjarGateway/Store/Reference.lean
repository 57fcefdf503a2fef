import AjarGateway.Store.Load

/-
  A concrete store directory and the deserialisation of its
  documents.

  The typed structures are read off an object as derived
  deserialisation does: every field of the structure must be
  present with its type, other fields are ignored.  Text is
  parsed by looking it up among known documents.

  Main declarations:
    * `Store.SerdeJson.ofDocuments`
    * `Store.directoryFiles`
    * `Store.fromSlice_ofDocuments`
    * `Store.sample_loads`
-/

------------------------------------------------------------
-- Typed Deserialisation
------------------------------------------------------------

namespace AjarGateway

namespace Store

namespace Value

def field
    (value : Value)
    (name : String) : Option Value :=
  match value.asObject with
  | none => none
  | some fields =>
      (fields.find? (fun entry => entry.1 == name)).map
        Prod.snd

def asString : Value → Option String
| .string text => some text
| _ => none

def asArray : Value → Option (List Value)
| .array items => some items
| _ => none

/- A number literal that is an integer. -/
def asInt : Value → Option Int
| .number literal =>
    match literal.toList with
    | '-' :: digits =>
        (Rust.parseU64 digits).map (fun n => -(n : Int))
    | digits => (Rust.parseU64 digits).map Int.ofNat
| _ => none

def stringField
    (value : Value)
    (name : String) : Option String :=
  (value.field name).bind asString

end Value

def signatureOfValue (value : Value) : Option Signature := do
  let sig ← value.stringField "sig"
  return ⟨sig⟩

def manifestOfValue (value : Value) : Option Manifest := do
  let ajarVersion ← value.field "ajar_version"
  let profiles ← value.field "profiles"
  let site ← value.field "site"
  let keys ← value.field "keys"
  let views ← value.field "views"
  let index ← views.stringField "index"
  let issuedAt ← value.stringField "issued_at"
  let expiresAt ← value.stringField "expires_at"
  let sequence ← (← value.field "sequence").asInt
  let signature ← value.field "signature"
  let signature ← signatureOfValue signature
  return {
    ajarVersion := ajarVersion
    profiles := profiles
    site := site
    keys := keys
    views := ⟨index⟩
    issuedAt := issuedAt
    expiresAt := expiresAt
    sequence := sequence
    signature := signature }

def chunkOfValue (value : Value) : Option ViewChunk := do
  let chunkType ← value.stringField "type"
  let content ← value.stringField "content"
  return ⟨chunkType, content⟩

def viewOfValue (value : Value) : Option View := do
  let url ← value.stringField "url"
  let etag ← value.stringField "etag"
  let chunks ← (← value.field "chunks").asArray
  let chunks ← chunks.mapM chunkOfValue
  let signature ← value.field "signature"
  let signature ← signatureOfValue signature
  return ⟨url, etag, chunks, signature⟩

end Store

end AjarGateway

------------------------------------------------------------
-- Documents As Text
------------------------------------------------------------

namespace AjarGateway

namespace Store

namespace Value

/- A JSON string, with quotes and backslashes escaped. -/
def quoted (text : String) : List Char :=
  ['"'] ++
    text.toList.flatMap (fun c =>
      if c = '"' ∨ c = '\\' then ['\\', c] else [c]) ++
    ['"']

mutual

/- The compact JSON text of a value. -/
def text : Value → List Char
| .null => "null".toList
| .bool value => (toString value).toList
| .number literal => literal.toList
| .string value => quoted value
| .array items => ['['] ++ itemsText items ++ [']']
| .object fields =>
    ['\x7b'] ++ fieldsText fields ++ ['\x7d']

def itemsText : List Value → List Char
| [] => []
| [item] => text item
| item :: rest => text item ++ [','] ++ itemsText rest

def fieldsText : List (String × Value) → List Char
| [] => []
| [(name, value)] => quoted name ++ [':'] ++ text value
| (name, value) :: rest =>
    quoted name ++ [':'] ++ text value ++ [','] ++
      fieldsText rest

end

def bytes (value : Value) : List UInt8 :=
  value.text.flatMap String.utf8EncodeChar

end Value

/- A parser that knows the given documents. -/
def SerdeJson.ofDocuments
    (documents : List Value) : SerdeJson where
  fromSlice := fun bytes =>
    documents.find? (fun document => document.bytes == bytes)
  manifestFromValue := manifestOfValue
  viewFromValue := viewOfValue

/- The files of a directory with prepared artifacts. -/
def directoryFiles
    (path : Path)
    (manifest index : Value)
    (views : List (String × Value)) : FileSystem where
  readFile := fun file =>
    let pathFor := FilesystemStorageBackend.pathFor ⟨path⟩
    let artifacts :=
      (pathFor manifestKey, manifest) ::
        (pathFor viewIndexKey, index) ::
          views.map (fun view =>
            (pathFor (viewKey view.1), view.2))
    match artifacts.find? (fun entry => entry.1 == file) with
    | some entry => .ok entry.2.bytes
    | none => .error .notFound
  readDir := fun directory =>
    if directory = path.join (Rust.utf8 "views") then
      .ok (views.map (fun view => .ok (Rust.utf8 view.1)))
    else
      .error .notFound

/- What such a file holds is one of the documents. -/
theorem directoryFiles_readFile_ok
    {path file : Path}
    {manifest index : Value}
    {views : List (String × Value)}
    {bytes : List UInt8}
    (hRead :
      (directoryFiles path manifest index views).readFile
          file =
        .ok bytes) :
    ∃ document ∈ manifest :: index :: views.map Prod.snd,
      bytes = document.bytes := by
  simp only [directoryFiles] at hRead
  split at hRead
  · rename_i entry hFind
    cases hRead
    have hMem := List.mem_of_find?_eq_some hFind
    refine ⟨entry.2, ?_, rfl⟩
    simp only [List.mem_cons, List.mem_map] at hMem ⊢
    rcases hMem with rfl | rfl | ⟨view, hView, rfl⟩
    · exact .inl rfl
    · exact .inr (.inl rfl)
    · exact .inr (.inr ⟨view, hView, rfl⟩)
  · cases hRead

end Store

end AjarGateway

------------------------------------------------------------
-- A Directory With One Page
------------------------------------------------------------

namespace AjarGateway

namespace Store

/- A known document is parsed from its own bytes. -/
theorem fromSlice_ofDocuments
    (documents : List Value)
    (document : Value)
    (hKnown : document ∈ documents)
    (hDistinct : (documents.map Value.bytes).Nodup) :
    (SerdeJson.ofDocuments documents).fromSlice
        document.bytes =
      some document := by
  have hFound :
      (documents.find?
        (fun other => other.bytes == document.bytes)).isSome :=
    List.find?_isSome.mpr ⟨document, hKnown, by simp⟩
  rcases Option.isSome_iff_exists.mp hFound with
    ⟨found, hFind⟩
  have hBytes : found.bytes = document.bytes := by
    simpa using List.find?_some hFind
  have hMem := List.mem_of_find?_eq_some hFind
  rw [List.inj_on_of_nodup_map hDistinct hMem hKnown
    hBytes] at hFind
  exact hFind

def sampleDir : Path :=
  Rust.utf8 "/srv/ajar"

def sampleIndex : Value :=
  .object [("views", .array [])]

/- What the manifest and the one view of a page say. -/
structure Page where
  index : String
  sequenceText : String
  sequence : Int
  url : String
  etag : String
  sig : String
  heading : String

namespace Page

/- A manifest for the first of July 2026. -/
def manifest (page : Page) : Value :=
  .object
    [("ajar_version", .string "0.1"),
      ("profiles", .array []),
      ("site", .object []),
      ("keys", .array []),
      ("views", .object [("index", .string page.index)]),
      ("issued_at", .string "2026-07-01T00:00:00Z"),
      ("expires_at", .string "2026-07-02T00:00:00Z"),
      ("sequence", .number page.sequenceText),
      ("signature", .object [("sig", .string "m1")])]

def manifestTyped (page : Page) : Manifest where
  ajarVersion := .string "0.1"
  profiles := .array []
  site := .object []
  keys := .array []
  views := ⟨page.index⟩
  issuedAt := "2026-07-01T00:00:00Z"
  expiresAt := "2026-07-02T00:00:00Z"
  sequence := page.sequence
  signature := ⟨"m1"⟩

/- A view with one heading. -/
def view (page : Page) : Value :=
  .object
    [("url", .string page.url),
      ("etag", .string page.etag),
      ("chunks",
        .array
          [.object
            [("type", .string "heading"),
              ("content", .string page.heading)]]),
      ("signature", .object [("sig", .string page.sig)])]

def viewTyped (page : Page) : View where
  url := page.url
  etag := page.etag
  chunks := [⟨"heading", page.heading⟩]
  signature := ⟨page.sig⟩

/- A directory with one view file. -/
def files (page : Page) : FileSystem :=
  directoryFiles sampleDir page.manifest sampleIndex
    [("page.json", page.view)]

/- The store with the view under a request target. -/
def store
    (page : Page)
    (target : String) : PreparedContentStore where
  manifest := {
    bytes := page.manifest.bytes
    etag :=
      strongEtag (Rust.utf8 "manifest") page.manifest.bytes
        none
    expiresAtUnix := 1782950400
    viewsIndex := page.index
    manifest := page.manifestTyped }
  viewIndex := {
    bytes := sampleIndex.bytes
    etag :=
      strongEtag (Rust.utf8 "view-index") sampleIndex.bytes
        none }
  viewsByRequestTarget :=
    AList.insert target ⟨page.view.bytes, page.viewTyped⟩ ∅

def documents (page : Page) : List Value :=
  [page.manifest, sampleIndex, page.view]

/- A page whose documents a parser knows. -/
structure Known
    (page : Page)
    (documents : List Value) : Prop where
  distinct : (documents.map Value.bytes).Nodup
  manifest : page.manifest ∈ documents
  index : sampleIndex ∈ documents
  view : page.view ∈ documents
  sequence :
    (Value.number page.sequenceText).asInt =
      some page.sequence
  sequence_nonneg : 0 ≤ page.sequence

theorem issuedAt :
    parseRfc3339Utc "2026-07-01T00:00:00Z" =
      .ok 1782864000 := by
  decide

theorem expiresAt :
    parseRfc3339Utc "2026-07-02T00:00:00Z" =
      .ok 1782950400 := by
  decide

theorem manifest_fields (page : Page) :
    validateManifestRequiredFields page.manifest = .ok () := by
  rfl

theorem manifest_typed
    {page : Page}
    (hSequence :
      (Value.number page.sequenceText).asInt =
        some page.sequence) :
    manifestOfValue page.manifest =
      some page.manifestTyped := by
  show
    ((Value.number page.sequenceText).asInt.bind fun sequence =>
      some { page.manifestTyped with sequence := sequence }) =
      some page.manifestTyped
  rw [hSequence]
  rfl

theorem view_fields (page : Page) :
    validateViewRequiredFields page.view = .ok () := by
  rfl

theorem view_typed (page : Page) :
    viewOfValue page.view = some page.viewTyped := by
  rfl

variable {page : Page} {documents : List Value}

/- The manifest is live from its first second on. -/
theorem manifest_loadable
    (hKnown : page.Known documents)
    (now : Int)
    (hFresh : now < 1782950400) :
    LoadableManifest (.ofDocuments documents) sampleDir
      page.files now page.manifest.bytes page.manifestTyped
      1782950400 where
  read := by
    simp [files, directoryFiles]
  parsed :=
    ⟨page.manifest,
      fromSlice_ofDocuments _ _ hKnown.manifest
        hKnown.distinct,
      page.manifest_fields, manifest_typed hKnown.sequence⟩
  live := {
    sequence_nonneg := hKnown.sequence_nonneg
    window :=
      ⟨1782864000, 1782950400, issuedAt, expiresAt,
        by decide, by decide, hFresh⟩ }
  expiry := expiresAt

theorem index_read (page : Page) :
    page.files.readFile
        ((⟨sampleDir⟩ : FilesystemStorageBackend).pathFor
          viewIndexKey) =
      .ok sampleIndex.bytes := by
  have hOther :
      (⟨sampleDir⟩ : FilesystemStorageBackend).pathFor
          manifestKey ≠
        (⟨sampleDir⟩ : FilesystemStorageBackend).pathFor
          viewIndexKey := by
    decide
  simp [files, directoryFiles, hOther]

theorem view_read (page : Page) :
    page.files.readFile
        ((⟨sampleDir⟩ : FilesystemStorageBackend).pathFor
          (viewKey "page.json")) =
      .ok page.view.bytes := by
  have hManifest :
      (⟨sampleDir⟩ : FilesystemStorageBackend).pathFor
          manifestKey ≠
        (⟨sampleDir⟩ : FilesystemStorageBackend).pathFor
          (viewKey "page.json") := by
    decide
  have hIndex :
      (⟨sampleDir⟩ : FilesystemStorageBackend).pathFor
          viewIndexKey ≠
        (⟨sampleDir⟩ : FilesystemStorageBackend).pathFor
          (viewKey "page.json") := by
    decide
  simp [files, directoryFiles, hManifest, hIndex]

/- The directory holds these three files only. -/
theorem readFile_ok
    {file : Path} {bytes : List UInt8}
    (hRead : page.files.readFile file = .ok bytes) :
    bytes = page.manifest.bytes ∨
      bytes = sampleIndex.bytes ∨
        bytes = page.view.bytes := by
  rcases directoryFiles_readFile_ok hRead with
    ⟨document, hDocument, hBytes⟩
  simp only [List.map_cons, List.map_nil, List.mem_cons,
    List.not_mem_nil, or_false] at hDocument
  rcases hDocument with rfl | rfl | rfl
  · exact .inl hBytes
  · exact .inr (.inl hBytes)
  · exact .inr (.inr hBytes)

theorem listing (page : Page) :
    page.files.readDir
        (sampleDir.join (Rust.utf8 "views")) =
      .ok [.ok (Rust.utf8 "page.json")] := by
  simp [files, directoryFiles]

theorem names :
    jsonNames [.ok (Rust.utf8 "page.json")] =
      .ok [Rust.utf8 "page.json"] := by
  have hJson :
      (Path.extension (Rust.utf8 "page.json")).bind
          Rust.fromUtf8 =
        some "json" := by
    decide
  simp [jsonNames, hJson]

theorem name :
    Rust.fromUtf8 (Rust.utf8 "page.json") =
      some "page.json" := by
  decide

/- A directory with one view file can be loaded. -/
theorem loads
    {target : String}
    (hKnown : page.Known documents)
    (hUrl : requestTargetFromViewUrl page.url = .ok target)
    (now : Int)
    (hFresh : now < 1782950400) :
    loadFrom (.ofDocuments documents) sampleDir page.files
        now =
      .ok (page.store target) := by
  have hAccepted :
      ViewAccepted (.ofDocuments documents) target
        ⟨page.view.bytes, page.viewTyped⟩ :=
    ⟨⟨page.view,
        fromSlice_ofDocuments _ _ hKnown.view
          hKnown.distinct,
        page.view_fields, page.view_typed⟩, hUrl⟩
  refine loadFrom_eq_ok
    (manifest_loadable hKnown now hFresh)
    page.index_read ?_ page.listing names ?_
  · simp [fromSlice_ofDocuments _ _ hKnown.index
      hKnown.distinct]
  · rw [List.insertionSort_cons, List.insertionSort_nil,
      List.orderedInsert_nil,
      answerWith_loadViews_cons
        (answerWith_loadView name page.view_read hAccepted)
        (Finset.notMem_empty target)]
    rfl

/- Its own three documents are all that a page needs. -/
theorem loads_documents
    {target : String}
    (hDistinct : (page.documents.map Value.bytes).Nodup)
    (hSequence :
      (Value.number page.sequenceText).asInt =
        some page.sequence)
    (hNonneg : 0 ≤ page.sequence)
    (hUrl : requestTargetFromViewUrl page.url = .ok target)
    (now : Int)
    (hFresh : now < 1782950400) :
    loadFrom (.ofDocuments page.documents) sampleDir
        page.files now =
      .ok (page.store target) := by
  have hKnown : page.Known page.documents :=
    { distinct := hDistinct
      manifest := by simp [Page.documents]
      index := by simp [Page.documents]
      view := by simp [Page.documents]
      sequence := hSequence
      sequence_nonneg := hNonneg }
  exact loads hKnown hUrl now hFresh

end Page

end Store

end AjarGateway

------------------------------------------------------------
-- A Sample Directory
------------------------------------------------------------

namespace AjarGateway

namespace Store

/- A manifest for the first of July 2026. -/
def sampleManifest (index : String) : Value :=
  .object
    [("ajar_version", .string "0.1"),
      ("profiles", .array []),
      ("site", .object []),
      ("keys", .array []),
      ("views", .object [("index", .string index)]),
      ("issued_at", .string "2026-07-01T00:00:00Z"),
      ("expires_at", .string "2026-07-02T00:00:00Z"),
      ("sequence", .number "1"),
      ("signature", .object [("sig", .string "m1")])]

def sampleManifestTyped (index : String) : Manifest where
  ajarVersion := .string "0.1"
  profiles := .array []
  site := .object []
  keys := .array []
  views := ⟨index⟩
  issuedAt := "2026-07-01T00:00:00Z"
  expiresAt := "2026-07-02T00:00:00Z"
  sequence := 1
  signature := ⟨"m1"⟩

/- A view with one heading. -/
def sampleView (url heading : String) : Value :=
  .object
    [("url", .string url),
      ("etag", .string "\"v1\""),
      ("chunks",
        .array
          [.object
            [("type", .string "heading"),
              ("content", .string heading)]]),
      ("signature", .object [("sig", .string "v1")])]

def sampleViewTyped (url heading : String) : View where
  url := url
  etag := "\"v1\""
  chunks := [⟨"heading", heading⟩]
  signature := ⟨"v1"⟩

/- A directory with one view file. -/
def sampleFiles (index url heading : String) : FileSystem :=
  directoryFiles sampleDir (sampleManifest index) sampleIndex
    [("page.json", sampleView url heading)]

/- The store that is loaded from it. -/
def sampleStore
    (index url heading : String) : PreparedContentStore where
  manifest := {
    bytes := (sampleManifest index).bytes
    etag :=
      strongEtag (Rust.utf8 "manifest")
        (sampleManifest index).bytes none
    expiresAtUnix := 1782950400
    viewsIndex := index
    manifest := sampleManifestTyped index }
  viewIndex := {
    bytes := sampleIndex.bytes
    etag :=
      strongEtag (Rust.utf8 "view-index") sampleIndex.bytes
        none }
  viewsByRequestTarget :=
    AList.insert url
      ⟨(sampleView url heading).bytes,
        sampleViewTyped url heading⟩ ∅

/- The documents of the sample directories. -/
def sampleDocuments : List Value :=
  [sampleManifest "/views", sampleManifest "/index",
    sampleIndex, sampleView "/page" "Old",
    sampleView "/page" "New", sampleView "/views" "Views"]

theorem sampleDocuments_distinct :
    (sampleDocuments.map Value.bytes).Nodup := by
  decide

def sampleJson : SerdeJson :=
  .ofDocuments sampleDocuments

/- The page of the sample directory. -/
def pageOf (index url heading : String) : Page where
  index := index
  sequenceText := "1"
  sequence := 1
  url := url
  etag := "\"v1\""
  sig := "v1"
  heading := heading

variable {index url heading : String}

theorem sample_manifest_read :
    (sampleFiles index url heading).readFile
        ((⟨sampleDir⟩ : FilesystemStorageBackend).pathFor
          manifestKey) =
      .ok (sampleManifest index).bytes := by
  simp [sampleFiles, directoryFiles]

theorem sample_index_read :
    (sampleFiles index url heading).readFile
        ((⟨sampleDir⟩ : FilesystemStorageBackend).pathFor
          viewIndexKey) =
      .ok sampleIndex.bytes :=
  (pageOf index url heading).index_read

theorem sample_view_read :
    (sampleFiles index url heading).readFile
        ((⟨sampleDir⟩ : FilesystemStorageBackend).pathFor
          (viewKey "page.json")) =
      .ok (sampleView url heading).bytes :=
  (pageOf index url heading).view_read

theorem sample_readFile_ok
    {file : Path} {bytes : List UInt8}
    (hRead :
      (sampleFiles index url heading).readFile file =
        .ok bytes) :
    bytes = (sampleManifest index).bytes ∨
      bytes = sampleIndex.bytes ∨
        bytes = (sampleView url heading).bytes :=
  (pageOf index url heading).readFile_ok hRead

theorem sample_listing :
    (sampleFiles index url heading).readDir
        (sampleDir.join (Rust.utf8 "views")) =
      .ok [.ok (Rust.utf8 "page.json")] :=
  (pageOf index url heading).listing

theorem sample_known
    (hManifest : sampleManifest index ∈ sampleDocuments)
    (hView : sampleView url heading ∈ sampleDocuments) :
    (pageOf index url heading).Known sampleDocuments where
  distinct := sampleDocuments_distinct
  manifest := hManifest
  index := by simp [sampleDocuments]
  view := hView
  sequence := by
    show (Value.number "1").asInt = some 1
    decide
  sequence_nonneg := Int.one_nonneg

/- A directory with one view file can be loaded. -/
theorem sample_loads
    (hManifest : sampleManifest index ∈ sampleDocuments)
    (hView : sampleView url heading ∈ sampleDocuments)
    (hUrl : requestTargetFromViewUrl url = .ok url) :
    loadFrom sampleJson sampleDir
        (sampleFiles index url heading) 1782864000 =
      .ok (sampleStore index url heading) :=
  Page.loads (sample_known hManifest hView) hUrl _
    (by decide)

end Store

end AjarGateway

------------------------------------------------------------
-- Two Versions Of A Page
------------------------------------------------------------

namespace AjarGateway

namespace Store

/- The store and the files of the sample page. -/
def samplePage (heading : String) : PreparedContentStore :=
  sampleStore "/views" "/page" heading

theorem samplePage_sequence_le (old new : String) :
    (samplePage old).manifestSequence ≤
      (samplePage new).manifestSequence :=
  le_refl (1 : Int)

def samplePageFiles (heading : String) : FileSystem :=
  sampleFiles "/views" "/page" heading

/- Midnight of the day the sample manifest is issued. -/
def sampleNow : Int := 1782864000

theorem sampleNow_inClockRange : InClockRange sampleNow :=
  ⟨by decide, by decide⟩

theorem samplePage_loads
    {heading : String}
    (hKnown : sampleView "/page" heading ∈ sampleDocuments) :
    loadFrom sampleJson sampleDir (samplePageFiles heading)
        sampleNow =
      .ok (samplePage heading) :=
  sample_loads (by simp [sampleDocuments]) hKnown
    (by decide)

theorem samplePage_old_loads :
    loadFrom sampleJson sampleDir (samplePageFiles "Old")
        sampleNow =
      .ok (samplePage "Old") :=
  samplePage_loads (by simp [sampleDocuments])

theorem samplePage_new_loads :
    loadFrom sampleJson sampleDir (samplePageFiles "New")
        sampleNow =
      .ok (samplePage "New") :=
  samplePage_loads (by simp [sampleDocuments])

/- The files of the new page do not hold the old one. -/
theorem samplePage_new_not_old (now : Int) :
    loadFrom sampleJson sampleDir (samplePageFiles "New")
        now ≠
      .ok (samplePage "Old") := by
  intro hLoad
  have hStored :
      (samplePage "Old").viewForRequestTarget "/page" =
        some ⟨(sampleView "/page" "Old").bytes,
          sampleViewTyped "/page" "Old"⟩ :=
    AList.lookup_insert _
  rcases (loadFrom_comesFrom _ _ _ _ _ hLoad).views _ _
      hStored with
    ⟨_, _, _, _, _, _, hRead⟩
  rcases sample_readFile_ok hRead with
    hBytes | hBytes | hBytes
  · exact absurd hBytes (by decide)
  · exact absurd hBytes (by decide)
  · exact absurd hBytes (by decide)

end Store

end AjarGateway
