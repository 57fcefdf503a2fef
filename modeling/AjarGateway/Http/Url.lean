import Mathlib.Data.List.TakeWhile
import Mathlib.Tactic.Common

/-
  URLs by their components, and the request target that a
  client sends for one.

  A resource is a path with an optional query and an
  optional fragment; a URL adds a scheme and an authority.
  The components hold none of the characters that end them,
  so that a text has one reading only.

  Main declarations:
    * `Http.Resource`
    * `Http.Resource.originForm`
    * `Http.HttpUrl`
    * `Http.UrlReference`
-/

------------------------------------------------------------
-- Resources
------------------------------------------------------------

namespace Http

/- A component after its mark, or nothing. -/
def marked (mark : Char) : Option (List Char) → List Char
| none => []
| some component => mark :: component

@[simp] theorem marked_none (mark : Char) :
    marked mark none = [] :=
  rfl

@[simp] theorem marked_some
    (mark : Char)
    (component : List Char) :
    marked mark (some component) = mark :: component :=
  rfl

/- A path, its query and its fragment. -/
structure Resource where
  path : List Char
  query : Option (List Char)
  fragment : Option (List Char)
  path_form : path = [] ∨ path.head? = some '/'
  path_free : '?' ∉ path ∧ '#' ∉ path
  query_free : ∀ text ∈ query, '#' ∉ text

namespace Resource

/- The text of a resource, as it stands in a URL. -/
def chars (resource : Resource) : List Char :=
  resource.path ++ marked '?' resource.query ++
    marked '#' resource.fragment

/- The path that is sent: a slash for an empty one. -/
def sentPath (resource : Resource) : List Char :=
  if resource.path = [] then ['/'] else resource.path

def originChars (resource : Resource) : List Char :=
  resource.sentPath ++ marked '?' resource.query

/- The path and the query; a fragment is never sent. -/
def originForm (resource : Resource) : String :=
  String.ofList resource.originChars

variable (resource : Resource)

theorem sentPath_head :
    resource.sentPath.head? = some '/' := by
  unfold sentPath
  split
  · rfl
  · rename_i hPath
    exact resource.path_form.resolve_left hPath

theorem sentPath_free :
    '?' ∉ resource.sentPath ∧ '#' ∉ resource.sentPath := by
  unfold sentPath
  split
  · exact ⟨by decide, by decide⟩
  · exact resource.path_free

theorem originChars_head :
    resource.originChars.head? = some '/' := by
  unfold originChars
  rw [List.head?_append, resource.sentPath_head]
  rfl

theorem originChars_noFragment :
    '#' ∉ resource.originChars := by
  unfold originChars
  rw [List.mem_append]
  rintro (hPath | hQuery)
  · exact resource.sentPath_free.2 hPath
  · cases hText : resource.query with
    | none =>
        rw [hText] at hQuery
        cases hQuery
    | some text =>
        rw [hText, marked_some, List.mem_cons] at hQuery
        rcases hQuery with hMark | hMem
        · exact absurd hMark (by decide)
        · exact resource.query_free text hText hMem

@[simp] theorem originForm_toList :
    resource.originForm.toList = resource.originChars :=
  String.toList_ofList

/- The path that is sent ends at the question mark. -/
theorem sentPath_eq_takeWhile :
    resource.sentPath =
      resource.originChars.takeWhile (· ≠ '?') := by
  have hPath :
      resource.sentPath.takeWhile (· ≠ '?') =
        resource.sentPath := by
    rw [List.takeWhile_eq_self_iff]
    intro c hMem
    exact decide_eq_true fun hEq =>
      resource.sentPath_free.1 (hEq ▸ hMem)
  unfold Resource.originChars
  rw [List.takeWhile_append, hPath, if_pos rfl]
  cases resource.query with
  | none => simp
  | some text => simp

end Resource

end Http

------------------------------------------------------------
-- URLs
------------------------------------------------------------

namespace Http

inductive Scheme where
  | http
  | https
  deriving DecidableEq, Repr

def Scheme.chars : Scheme → List Char
| http => "http".toList
| https => "https".toList

/- A URL with the scheme `http` or `https`. -/
structure HttpUrl extends Resource where
  scheme : Scheme
  authority : List Char
  authority_free :
    '/' ∉ authority ∧ '?' ∉ authority ∧ '#' ∉ authority

namespace HttpUrl

/- What follows the two slashes. -/
def rest (url : HttpUrl) : List Char :=
  url.authority ++ url.toResource.chars

def chars (url : HttpUrl) : List Char :=
  url.scheme.chars ++ "://".toList ++ url.rest

def text (url : HttpUrl) : String :=
  String.ofList url.chars

@[simp] theorem text_toList (url : HttpUrl) :
    url.text.toList = url.chars :=
  String.toList_ofList

end HttpUrl

/- A URL, or the path of one with what follows it. -/
inductive UrlReference where
  | relative (resource : Resource) (hPath : resource.path ≠ [])
  | absolute (url : HttpUrl)

namespace UrlReference

def resource : UrlReference → Resource
| relative resource _ => resource
| absolute url => url.toResource

def text : UrlReference → String
| relative resource _ => String.ofList resource.chars
| absolute url => url.text

/- A path without a query and without a fragment. -/
def IsPlainPath : UrlReference → Prop
| relative resource _ =>
    resource.query = none ∧ resource.fragment = none
| absolute _ => False

/- Only a plain path is the path that is sent. -/
theorem text_eq_sentPath_iff
    (reference : UrlReference) :
    reference.text =
        String.ofList reference.resource.sentPath ↔
      reference.IsPlainPath := by
  rw [← String.toList_inj, String.toList_ofList]
  cases reference with
  | relative resource hPath =>
      have hSent : resource.sentPath = resource.path :=
        if_neg hPath
      simp only [text, IsPlainPath, UrlReference.resource,
        String.toList_ofList, hSent, Resource.chars,
        List.append_assoc, List.append_right_eq_self,
        List.append_eq_nil_iff]
      apply and_congr
      · cases resource.query <;> simp
      · cases resource.fragment <;> simp
  | absolute url =>
      simp only [text, IsPlainPath, UrlReference.resource,
        iff_false]
      intro hEq
      have hHead : url.text.toList.head? = some 'h' := by
        rw [HttpUrl.text_toList]
        unfold HttpUrl.chars
        cases url.scheme <;> rfl
      rw [hEq, Resource.sentPath_head] at hHead
      exact absurd hHead (by decide)

end UrlReference

end Http
