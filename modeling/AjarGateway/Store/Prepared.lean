import AjarGateway.Store.Time
import Mathlib.Data.List.AList

/-
  Prepared artifacts and their validation.

  JSON parsing and typed deserialisation belong to
  `serde_json`; they are the fields of `SerdeJson`, a
  parameter of the model.  Everything the store checks
  itself is translated here.

  Main declarations:
    * `Store.SerdeJson`
    * `Store.PreparedContentStore`
    * `Store.validateManifestLifecycle`
    * `Store.requestTargetFromViewUrl`
    * `Store.strongEtag`
-/

------------------------------------------------------------
-- Documents
------------------------------------------------------------

namespace AjarGateway

namespace Store

/- `serde_json::Value`. -/
inductive Value where
  | null
  | bool (value : Bool)
  | number (literal : String)
  | string (value : String)
  | array (items : List Value)
  | object (fields : List (String × Value))

/- `Value::as_object`. -/
def Value.asObject : Value → Option (List (String × Value))
| .object fields => some fields
| _ => none

/- Embedded Ajar signature subset. -/
structure Signature where
  sig : String
  deriving DecidableEq, Repr

/- Typed manifest view configuration. -/
structure ManifestViews where
  index : String
  deriving DecidableEq, Repr

/- Typed manifest subset required by the serve path. -/
structure Manifest where
  ajarVersion : Value
  profiles : Value
  site : Value
  keys : Value
  views : ManifestViews
  issuedAt : String
  expiresAt : String
  sequence : Int
  signature : Signature

/- Typed view chunk subset for markdown rendering. -/
structure ViewChunk where
  chunkType : String
  content : String
  deriving DecidableEq, Repr

/- Typed view subset required by the serve path. -/
structure View where
  url : String
  etag : String
  chunks : List ViewChunk
  signature : Signature
  deriving DecidableEq, Repr

/- The functions of `serde_json` that the store calls. -/
structure SerdeJson where
  fromSlice : List UInt8 → Option Value
  manifestFromValue : Value → Option Manifest
  viewFromValue : Value → Option View

end Store

end AjarGateway

------------------------------------------------------------
-- The Prepared Content Store
------------------------------------------------------------

namespace AjarGateway

namespace Store

/- Exact artifact bytes plus a strong entity tag. -/
structure StoredArtifact where
  bytes : List UInt8
  etag : String
  deriving DecidableEq, Repr

/- Stored manifest metadata used by the serving layer. -/
structure StoredManifest where
  bytes : List UInt8
  etag : String
  expiresAtUnix : Int
  viewsIndex : String
  manifest : Manifest

/- Stored view metadata used by content negotiation. -/
structure StoredView where
  bytes : List UInt8
  view : View
  deriving DecidableEq, Repr

/-
  The in-memory store.  Views are kept under their request
  target, at most one under each.
-/
structure PreparedContentStore where
  manifest : StoredManifest
  viewIndex : StoredArtifact
  viewsByRequestTarget : AList (fun _ : String => StoredView)

namespace PreparedContentStore

def viewForRequestTarget
    (store : PreparedContentStore)
    (requestTarget : String) : Option StoredView :=
  store.viewsByRequestTarget.lookup requestTarget

def manifestSequence (store : PreparedContentStore) : Int :=
  store.manifest.manifest.sequence

def viewCount (store : PreparedContentStore) : Nat :=
  store.viewsByRequestTarget.keys.length

end PreparedContentStore

end Store

end AjarGateway

------------------------------------------------------------
-- Validation
------------------------------------------------------------

namespace AjarGateway

namespace Store

/- Every listed field must be present in an object. -/
def validateRequiredFields
    (fields : List String)
    (missing : StoreLoadError)
    (value : Value) : Except StoreLoadError Unit :=
  match value.asObject with
  | none => .error .jsonMalformed
  | some object =>
      if fields.all (fun field =>
          object.any (fun entry => entry.1 == field)) then
        .ok ()
      else
        .error missing

def validateManifestRequiredFields
    (value : Value) : Except StoreLoadError Unit :=
  validateRequiredFields
    ["ajar_version", "profiles", "site", "keys", "views",
      "issued_at", "expires_at", "sequence", "signature"]
    .manifestFieldMissing value

def validateViewRequiredFields
    (value : Value) : Except StoreLoadError Unit :=
  validateRequiredFields
    ["url", "etag", "chunks", "signature"]
    .viewFieldMissing value

def maxManifestLifetimeSeconds : Int :=
  180 * 24 * 60 * 60

def validateManifestLifecycle
    (manifest : Manifest)
    (now : Int) : Except StoreLoadError Unit := do
  if manifest.sequence < 0 then
    throw .manifestSequenceInvalid
  let issuedAt ← parseRfc3339Utc manifest.issuedAt
  let expiresAt ← parseRfc3339Utc manifest.expiresAt
  if expiresAt ≤ issuedAt then
    throw .manifestTimeInvalid
  if expiresAt - issuedAt > maxManifestLifetimeSeconds then
    throw .manifestLifetimeTooLong
  if expiresAt ≤ now then
    throw .manifestExpired

/- What an accepted manifest satisfies at its load time. -/
structure ManifestLive (manifest : Manifest) (now : Int) :
    Prop where
  sequence_nonneg : 0 ≤ manifest.sequence
  window :
    ∃ issuedAt expiresAt,
      parseRfc3339Utc manifest.issuedAt = .ok issuedAt ∧
        parseRfc3339Utc manifest.expiresAt = .ok expiresAt ∧
        0 < expiresAt - issuedAt ∧
        expiresAt - issuedAt ≤ maxManifestLifetimeSeconds ∧
        now < expiresAt

/- The lifecycle check accepts exactly live manifests. -/
theorem validateManifestLifecycle_ok_iff
    (manifest : Manifest)
    (now : Int) :
    validateManifestLifecycle manifest now = .ok () ↔
      ManifestLive manifest now := by
  simp only [validateManifestLifecycle, Rust.throw_bind,
    Rust.guard_eq_ok_iff, Rust.bind_eq_ok_iff]
  constructor
  · rintro ⟨hSequence, issuedAt, hIssued, expiresAt,
      hExpires, hOrder, hLifetime, hExpiry, _⟩
    exact ⟨by omega, issuedAt, expiresAt, hIssued, hExpires,
      by omega, by omega, by omega⟩
  · rintro ⟨hSequence, issuedAt, expiresAt, hIssued,
      hExpires, hOrder, hLifetime, hExpiry⟩
    exact ⟨by omega, issuedAt, hIssued, expiresAt, hExpires,
      by omega, by omega, by omega, rfl⟩

end Store

end AjarGateway

------------------------------------------------------------
-- Request Targets And Entity Tags
------------------------------------------------------------

namespace AjarGateway

namespace Store

def requestTargetFromViewUrl
    (url : String) : Except StoreLoadError String :=
  let text := url.toList
  if text.isEmpty then
    .error .invalidViewUrl
  else if text.head? = some '/' then
    .ok url
  else
    match (Rust.stripPrefix "http://".toList text).orElse
        (fun _ => Rust.stripPrefix "https://".toList text) with
    | some afterScheme =>
        let target := afterScheme.dropWhile (· ≠ '/')
        if target.isEmpty then .ok "/"
        else .ok (String.ofList target)
    | none => .error .invalidViewUrl

/- The FNV-1a hash of a byte string. -/
def fnvHash (bytes : List UInt8) : UInt64 :=
  bytes.foldl
    (fun hash byte =>
      (hash ^^^ byte.toUInt64) * 1099511628211)
    14695981039346656037

def strongEtag
    (label bytes : List UInt8)
    (extra : Option (List UInt8)) : String :=
  let hash := fnvHash (label ++ bytes ++ extra.getD [])
  let digits := Nat.toDigits 16 hash.toNat
  "\"" ++ String.ofList (digits.leftpad 16 '0') ++ "-" ++
    toString bytes.length ++ "\""

end Store

end AjarGateway
