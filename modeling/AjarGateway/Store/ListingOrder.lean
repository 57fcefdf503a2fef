import AjarGateway.Store.Reference

/-
  Loads from a directory that is listed in another order.

  The names of the view files are sorted before any of them
  is read.  So the loop over them, which stops at the first
  bad file, sees one list whatever the order of the listing.

  Key definitions include:
    * `Store.SameListing`
    * `Store.SameFiles`
    * `Store.SameResult`

  Key theorems include:
    * `Store.jsonNames_eq`
    * `Store.loadFrom_sameResult`
    * `Store.loadFrom_ignores_order`
-/

------------------------------------------------------------
-- Listings In Two Orders
------------------------------------------------------------

namespace AjarGateway

namespace Store

/- What listing a directory returns. -/
abbrev Listing : Type :=
  Except IoErrorKind (List (Except IoErrorKind OsString))

/- Two listings of a directory, in any two orders. -/
inductive SameListing : Listing → Listing → Prop where
  | refused (kind : IoErrorKind) :
      SameListing (.error kind) (.error kind)
  | listed
      {entries entries' :
        List (Except IoErrorKind OsString)}
      (hOrder : entries.Perm entries') :
      SameListing (.ok entries) (.ok entries')

/- The same files, in directories listed in any order. -/
structure SameFiles (first second : FileSystem) : Prop where
  readFile : first.readFile = second.readFile
  readDir : ∀ path,
    SameListing (first.readDir path) (second.readDir path)

/- An entry of the directory cannot be listed. -/
def FailsAt
    (files : FileSystem)
    (path : Path)
    (kind : IoErrorKind) : Prop :=
  ∃ entries,
    files.readDir path = .ok entries ∧
      .error kind ∈ entries

/- The entries that cannot be listed fail in one way. -/
def FailsAlike (files : FileSystem) (path : Path) : Prop :=
  ∀ kind kind',
    FailsAt files path kind →
      FailsAt files path kind' → kind = kind'

/-
  The same result, up to the error that listing a directory
  has ended with.
-/
inductive SameResult
    {α : Type} (fails : IoErrorKind → Prop) :
    Except StoreLoadError α → Except StoreLoadError α →
      Prop where
  | same (result : Except StoreLoadError α) :
      SameResult fails result result
  | readFailed
      {kind kind' : IoErrorKind}
      (hKind : fails kind)
      (hKind' : fails kind') :
      SameResult fails (.error (.readFailed kind))
        (.error (.readFailed kind'))

/- Both results go on in the same way. -/
theorem SameResult.bind
    {α β : Type} {fails : IoErrorKind → Prop}
    (result : Except StoreLoadError α)
    {next next' : α → Except StoreLoadError β}
    (hNext : ∀ value,
      SameResult fails (next value) (next' value)) :
    SameResult fails (result >>= next)
      (result >>= next') := by
  cases result with
  | error error => exact .same _
  | ok value => exact hNext value

theorem SameResult.eq
    {α : Type} {fails : IoErrorKind → Prop}
    {result result' : Except StoreLoadError α}
    (hSame : SameResult fails result result')
    (hAlike : ∀ kind kind',
      fails kind → fails kind' → kind = kind') :
    result = result' := by
  cases hSame with
  | same => rfl
  | readFailed hKind hKind' =>
      rw [hAlike _ _ hKind hKind']

end Store

end AjarGateway

------------------------------------------------------------
-- The Names Of A Listing
------------------------------------------------------------

namespace AjarGateway

namespace Store

/- The file name has the extension `json`. -/
def isJsonName (name : OsString) : Bool :=
  (Path.extension name).bind Rust.fromUtf8 = some "json"

/- The failures of a listing. -/
def failures
    (entries : List (Except IoErrorKind OsString)) :
    List IoErrorKind :=
  entries.filterMap fun
    | .ok _ => none
    | .error kind => some kind

/- The names that could be listed. -/
def listedNames
    (entries : List (Except IoErrorKind OsString)) :
    List OsString :=
  entries.filterMap fun
    | .ok name => some name
    | .error _ => none

/- The first failure, or else all names that are kept. -/
theorem jsonNames_eq
    (entries : List (Except IoErrorKind OsString)) :
    jsonNames entries =
      match failures entries with
      | kind :: _ => .error (.readFailed kind)
      | [] => .ok ((listedNames entries).filter isJsonName) := by
  induction entries with
  | nil => rfl
  | cons entry rest ih =>
      cases entry with
      | error kind => rfl
      | ok name =>
          have hFailures :
              failures (.ok name :: rest) = failures rest :=
            rfl
          have hNames :
              listedNames (.ok name :: rest) =
                name :: listedNames rest :=
            rfl
          rw [jsonNames, ih, hFailures, hNames]
          cases failures rest with
          | cons kind more => rfl
          | nil =>
              rw [Rust.ok_bind, List.filter_cons]
              by_cases hJson : isJsonName name = true
              · rw [if_pos hJson,
                  if_pos (of_decide_eq_true hJson)]
              · have hOther :
                    ¬(Path.extension name).bind
                        Rust.fromUtf8 =
                      some "json" :=
                  fun hEq => hJson (decide_eq_true hEq)
                rw [if_neg hJson, if_neg hOther]

theorem mem_failures_iff
    (entries : List (Except IoErrorKind OsString))
    (kind : IoErrorKind) :
    kind ∈ failures entries ↔ .error kind ∈ entries := by
  unfold failures
  rw [List.mem_filterMap]
  constructor
  · rintro ⟨entry, hEntry, hKind⟩
    cases entry with
    | ok name => cases hKind
    | error failure =>
        cases hKind
        exact hEntry
  · intro hEntry
    exact ⟨.error kind, hEntry, rfl⟩

variable {entries entries' :
  List (Except IoErrorKind OsString)}

/- The names of a listing in another order. -/
theorem jsonNames_perm
    (hOrder : entries.Perm entries') :
    (∃ names names',
        jsonNames entries = .ok names ∧
          jsonNames entries' = .ok names' ∧
            names.Perm names') ∨
      ∃ kind kind',
        .error kind ∈ entries ∧ .error kind' ∈ entries ∧
          jsonNames entries = .error (.readFailed kind) ∧
            jsonNames entries' =
              .error (.readFailed kind') := by
  have hFailures :
      (failures entries).Perm (failures entries') :=
    hOrder.filterMap _
  rw [jsonNames_eq entries, jsonNames_eq entries']
  cases hFirst : failures entries with
  | nil =>
      rw [hFirst] at hFailures
      rw [hFailures.nil_eq.symm]
      left
      exact ⟨_, _, rfl, rfl,
        (hOrder.filterMap _).filter isJsonName⟩
  | cons kind more =>
      cases hSecond : failures entries' with
      | nil =>
          rw [hFirst, hSecond] at hFailures
          cases hFailures.eq_nil
      | cons kind' more' =>
          have hKind : kind ∈ failures entries := by
            rw [hFirst]
            exact List.mem_cons_self
          have hKind' : kind' ∈ failures entries := by
            rw [hFailures.mem_iff, hSecond]
            exact List.mem_cons_self
          right
          exact ⟨kind, kind',
            (mem_failures_iff _ _).mp hKind,
            (mem_failures_iff _ _).mp hKind', rfl, rfl⟩

/- Sorting forgets the order of the listing. -/
theorem insertionSort_perm
    {names names' : List OsString}
    (hOrder : names.Perm names') :
    names.insertionSort (· ≤ ·) =
      names'.insertionSort (· ≤ ·) := by
  apply List.Perm.eq_of_pairwise'
    (List.pairwise_insertionSort (· ≤ ·) names)
    (List.pairwise_insertionSort (· ≤ ·) names')
  exact (List.perm_insertionSort _ names).trans
    (hOrder.trans (List.perm_insertionSort _ names').symm)

end Store

end AjarGateway

------------------------------------------------------------
-- Loads From The Same Files
------------------------------------------------------------

namespace AjarGateway

namespace Store

open Interleaving

theorem answerWith_jsonFiles
    (files : FileSystem)
    (now : Int)
    (path : Path) :
    (jsonFiles path).run.answerWith (files.reply now) =
      match files.readDir path with
      | .error kind => .error (.readFailed kind)
      | .ok entries => jsonNames entries := by
  cases hListing : files.readDir path with
  | error kind => simp [jsonFiles, hListing]
  | ok entries => simp [jsonFiles, hListing]

variable {json : SerdeJson}
variable {backend : FilesystemStorageBackend}
variable {first second : FileSystem} {now : Int}

/- Reading a file does not list a directory. -/
theorem answerWith_readArtifact_eq
    (hReads : first.readFile = second.readFile)
    (key : StoreKey) :
    (readArtifact backend key).run.answerWith
        (first.reply now) =
      (readArtifact backend key).run.answerWith
        (second.reply now) := by
  cases hFile : second.readFile (backend.pathFor key) with
  | ok bytes =>
      simp [readArtifact, FilesystemStorageBackend.read,
        hReads, hFile]
  | error kind =>
      cases kind <;>
        simp [readArtifact, FilesystemStorageBackend.read,
          hReads, hFile, throw, throwThe,
          MonadExceptOf.throw]

theorem answerWith_loadView_eq
    (hReads : first.readFile = second.readFile)
    (viewPath : OsString) :
    (loadView json backend viewPath).run.answerWith
        (first.reply now) =
      (loadView json backend viewPath).run.answerWith
        (second.reply now) := by
  simp only [loadView, Fallible.answerWith_run_bind,
    answerWith_readArtifact_eq hReads, Fallible.run_ofOption,
    Fallible.run_ofExcept, Fallible.run_pure,
    Program.answerWith_ret]

theorem answerWith_loadViews_eq
    (hReads : first.readFile = second.readFile)
    (viewPaths : List OsString)
    (seenUrls : Finset String)
    (views : AList (fun _ : String => StoredView)) :
    (loadViews json backend viewPaths seenUrls
        views).run.answerWith (first.reply now) =
      (loadViews json backend viewPaths seenUrls
        views).run.answerWith (second.reply now) := by
  induction viewPaths generalizing seenUrls views with
  | nil => rfl
  | cons viewPath rest ih =>
      rw [loadViews, Fallible.answerWith_run_bind,
        Fallible.answerWith_run_bind,
        answerWith_loadView_eq hReads]
      congr 1
      funext loaded
      rcases loaded with ⟨requestTarget, view⟩
      by_cases hSeen : requestTarget ∈ seenUrls
      · simp only [if_pos hSeen]
        rfl
      · simp only [if_neg hSeen]
        exact ih _ _

/- What follows may use the names in any order. -/
theorem sameResult_jsonFiles_bind
    {α : Type}
    (hSame : SameFiles first second)
    (path : Path)
    {next : List OsString → Except StoreLoadError α}
    (hNext : ∀ names names',
      names.Perm names' → next names = next names') :
    SameResult (FailsAt first path)
      ((jsonFiles path).run.answerWith (first.reply now) >>=
        next)
      ((jsonFiles path).run.answerWith (second.reply now) >>=
        next) := by
  rw [answerWith_jsonFiles, answerWith_jsonFiles]
  have hListing := hSame.readDir path
  cases hFirst : first.readDir path with
  | error kind =>
      rw [hFirst] at hListing
      generalize second.readDir path = listing at hListing
      cases hListing
      exact .same _
  | ok entries =>
      rw [hFirst] at hListing
      generalize second.readDir path = listing at hListing
      cases hListing with
      | listed hOrder =>
          rcases jsonNames_perm hOrder with
            ⟨names, names', hNames, hNames', hPerm⟩ |
              ⟨kind, kind', hKind, hKind', hFails, hFails'⟩
          · simp only [hNames, hNames', Rust.ok_bind,
              hNext _ _ hPerm]
            exact .same _
          · simp only [hFails, hFails']
            exact .readFailed ⟨entries, hFirst, hKind⟩
              ⟨entries, hFirst, hKind'⟩

/- A load returns the same, whatever the listing order. -/
theorem loadFrom_sameResult
    (json : SerdeJson)
    (path : Path)
    (now : Int)
    (hSame : SameFiles first second) :
    SameResult
      (FailsAt first (path.join (Rust.utf8 "views")))
      (loadFrom json path first now)
      (loadFrom json path second now) := by
  have hReads := hSame.readFile
  simp only [loadFrom, loadFromDir,
    Fallible.answerWith_run_bind, Fallible.run_ofOption,
    Fallible.run_ofExcept, Fallible.run_liftM,
    Fallible.run_pure, Program.answerWith_ret, Program.answerWith_bind,
    answerWith_nowUnixSeconds,
    answerWith_readArtifact_eq hReads,
    answerWith_loadViews_eq hReads]
  refine .bind _ fun manifestBytes => ?_
  refine .bind _ fun manifestJson => ?_
  refine .bind _ fun _ => ?_
  refine .bind _ fun manifest => ?_
  refine .bind _ fun clock => ?_
  refine .bind _ fun _ => ?_
  refine .bind _ fun indexBytes => ?_
  refine .bind _ fun _ => ?_
  apply sameResult_jsonFiles_bind hSame
  intro names names' hOrder
  rw [insertionSort_perm hOrder]

/-
  Loads from the same files return the same result: up to
  the error of an entry that cannot be listed, and exactly
  the same unless several entries fail in different ways.
-/
theorem loadFrom_ignores_order
    (json : SerdeJson)
    (path : Path)
    (now : Int)
    (hSame : SameFiles first second) :
    SameResult
        (FailsAt first (path.join (Rust.utf8 "views")))
        (loadFrom json path first now)
        (loadFrom json path second now) ∧
      (FailsAlike first (path.join (Rust.utf8 "views")) →
        loadFrom json path first now =
          loadFrom json path second now) := by
  have hResult := loadFrom_sameResult json path now hSame
  exact ⟨hResult, fun hAlike => hResult.eq hAlike⟩

/- The files of a page, with these names listed. -/
def sampleListing (names : List OsString) : FileSystem where
  readFile := (samplePageFiles "New").readFile
  readDir := fun _ => .ok (names.map .ok)

theorem sampleListing_failsAlike
    (names : List OsString)
    (path : Path) :
    FailsAlike (sampleListing names) path := by
  intro kind _ hFails
  rcases hFails with ⟨entries, hListing, hFails⟩
  cases hListing
  rcases List.mem_map.mp hFails with ⟨name, -, hName⟩
  cases hName

theorem sampleListing_sameFiles
    {names names' : List OsString}
    (hOrder : names.Perm names') :
    SameFiles (sampleListing names) (sampleListing names') where
  readFile := rfl
  readDir := fun _ => .listed (hOrder.map Except.ok)

/- A page next to a name whose file is missing. -/
theorem loadFrom_ignores_order_sample :
    loadFrom sampleJson sampleDir
        (sampleListing
          [Rust.utf8 "page.json", Rust.utf8 "gone.json"])
        sampleNow =
      loadFrom sampleJson sampleDir
        (sampleListing
          [Rust.utf8 "gone.json", Rust.utf8 "page.json"])
        sampleNow := by
  have hSame :=
    sampleListing_sameFiles
      (.swap (Rust.utf8 "gone.json") (Rust.utf8 "page.json")
        [])
  have hResult :=
    loadFrom_ignores_order sampleJson sampleDir sampleNow
      hSame
  exact hResult.2 (sampleListing_failsAlike _ _)

end Store

end AjarGateway
