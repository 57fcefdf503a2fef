import AjarGateway.Http.EntityTag
import AjarGateway.Http.FieldValue
import AjarGateway.Serving.Reference

/-
  If-None-Match against its meaning in HTTP.

  The gateway cuts every line at all of its commas, and
  takes a part for the current tag when the two are spelled
  the same.  A tag with a comma is never recognised, a tag
  that differs in its mark is not either, and a star between
  two commas of a tag is taken for the whole field.

  Key definitions include:
    * `Serving.EvaluatesField`
    * `Serving.TagsReadWhole`

  Key theorems include:
    * `Serving.ifNoneMatchMatches_lines_iff`
    * `Serving.evaluatesField_iff`
-/

------------------------------------------------------------
-- What The Gateway Takes For A Match
------------------------------------------------------------

namespace AjarGateway

namespace Serving

open Http Store

/- The check of the gateway agrees with the field. -/
def EvaluatesField
    (http : HttpCrate)
    (headers : HeaderMap)
    (lines : List IfNoneMatchLine)
    (current : EntityTag) : Prop :=
  ifNoneMatchMatches http headers
      (String.ofList current.text) =
    true ↔ NoneMatchFails lines current

variable {http : HttpCrate} {headers : HeaderMap}
variable {lines : List IfNoneMatchLine}
variable {current : EntityTag}

/- Some part of some line is a star or the current tag. -/
theorem ifNoneMatchMatches_parts_iff
    (hReads : http.ReadsVisibleAscii)
    (hField :
      headers.getAll .ifNoneMatch =
        lines.map IfNoneMatchLine.value)
    (hVisible : ∀ line ∈ lines,
      line.value.bytes.all isVisibleAscii = true) :
    ifNoneMatchMatches http headers
        (String.ofList current.text) =
      true ↔
        ∃ line ∈ lines, ∃ part ∈ line.text.splitOn ',',
          IsCandidate current part := by
  have hLine : ∀ line ∈ lines,
      http.headerValueToStr line.value =
        some (String.ofList line.text) := by
    intro line hMem
    have hBytes := hVisible line hMem
    rw [hReads, if_pos hBytes]
    exact congrArg some (asciiText_of_visible hBytes).1
  unfold ifNoneMatchMatches
  rw [hField, List.any_map, List.any_eq_true]
  apply exists_congr
  intro line
  apply and_congr_right
  intro hMem
  simp only [Function.comp_apply, hLine line hMem,
    String.toList_ofList, List.any_eq_true,
    Bool.or_eq_true, beq_iff_eq]
  rfl

/- What the gateway takes for a match, in tags. -/
theorem ifNoneMatchMatches_lines_iff
    (hReads : http.ReadsVisibleAscii)
    (hField :
      headers.getAll .ifNoneMatch =
        lines.map IfNoneMatchLine.value)
    (hVisible : ∀ line ∈ lines,
      line.value.bytes.all isVisibleAscii = true) :
    ifNoneMatchMatches http headers
        (String.ofList current.text) =
      true ↔
        ∃ line ∈ lines,
          line.isStar = true ∨
            ∃ tag ∈ line.listed,
              tag.HidesStar ∨
                (',' ∉ tag.content ∧ tag = current) := by
  rw [ifNoneMatchMatches_parts_iff hReads hField hVisible]
  apply exists_congr
  intro line
  apply and_congr_right
  intro hMem
  apply exists_part_line_iff
  have hAscii := (asciiText_of_visible (hVisible line hMem)).2
  rwa [String.toList_ofList] at hAscii

end Serving

end AjarGateway

------------------------------------------------------------
-- When The Field Is Evaluated Right
------------------------------------------------------------

namespace AjarGateway

namespace Serving

open Http Store

/- The tags that the lines of a field list. -/
def listedTags
    (lines : List IfNoneMatchLine) : List EntityTag :=
  lines.flatMap IfNoneMatchLine.listed

/-
  The tags of a field are read as they are written: it is a
  star; or it lists the current tag by its own mark and
  without commas; or no tag that it lists is weakly equal to
  the current one.  In place of the current tag, and only
  then, a tag that hides a star does as well.
-/
inductive TagsReadWhole
    (lines : List IfNoneMatchLine)
    (current : EntityTag) : Prop where
  | star
      (hStar : ∃ line ∈ lines, line.isStar = true)
  | listed
      (hListed : current ∈ listedTags lines)
      (hComma : ',' ∉ current.content)
  | hidden
      (hWeak : ∃ tag ∈ listedTags lines,
        tag.WeaklyEqual current)
      (hHidden : ∃ tag ∈ listedTags lines, tag.HidesStar)
  | unlisted
      (hWeak : ∀ tag ∈ listedTags lines,
        ¬tag.WeaklyEqual current)
      (hHidden : ∀ tag ∈ listedTags lines, ¬tag.HidesStar)

variable {http : HttpCrate} {headers : HeaderMap}
variable {lines : List IfNoneMatchLine}
variable {current : EntityTag}

theorem noneMatchFails_iff :
    NoneMatchFails lines current ↔
      (∃ line ∈ lines, line.isStar = true) ∨
        ∃ tag ∈ listedTags lines,
          tag.WeaklyEqual current := by
  unfold NoneMatchFails listedTags
  simp only [List.mem_flatMap]
  constructor
  · rintro (hStar | ⟨line, hLine, tag, hTag, hWeak⟩)
    · exact .inl hStar
    · exact .inr ⟨tag, ⟨line, hLine, hTag⟩, hWeak⟩
  · rintro (hStar | ⟨tag, ⟨line, hLine, hTag⟩, hWeak⟩)
    · exact .inl hStar
    · exact .inr ⟨line, hLine, tag, hTag, hWeak⟩

/-
  For every field of visible ASCII and every current tag,
  the field is evaluated as HTTP defines it exactly when its
  tags are read as they are written.
-/
theorem evaluatesField_iff
    (hReads : http.ReadsVisibleAscii)
    (hField :
      headers.getAll .ifNoneMatch =
        lines.map IfNoneMatchLine.value)
    (hVisible : ∀ line ∈ lines,
      line.value.bytes.all isVisibleAscii = true) :
    EvaluatesField http headers lines current ↔
      TagsReadWhole lines current := by
  have hMatches :
      ifNoneMatchMatches http headers
          (String.ofList current.text) =
        true ↔
          (∃ line ∈ lines, line.isStar = true) ∨
            (∃ tag ∈ listedTags lines, tag.HidesStar) ∨
              current ∈ listedTags lines ∧
                ',' ∉ current.content := by
    rw [ifNoneMatchMatches_lines_iff hReads hField hVisible]
    unfold listedTags
    simp only [List.mem_flatMap]
    constructor
    · rintro ⟨line, hLine, hStar |
        ⟨tag, hTag, hHides | ⟨hComma, rfl⟩⟩⟩
      · exact .inl ⟨line, hLine, hStar⟩
      · exact .inr (.inl ⟨tag, ⟨line, hLine, hTag⟩, hHides⟩)
      · exact .inr (.inr ⟨⟨line, hLine, hTag⟩, hComma⟩)
    · rintro (⟨line, hLine, hStar⟩ |
        ⟨tag, ⟨line, hLine, hTag⟩, hHides⟩ |
          ⟨⟨line, hLine, hTag⟩, hComma⟩)
      · exact ⟨line, hLine, .inl hStar⟩
      · exact ⟨line, hLine, .inr ⟨tag, hTag, .inl hHides⟩⟩
      · exact ⟨line, hLine,
          .inr ⟨current, hTag, .inr ⟨hComma, rfl⟩⟩⟩
  unfold EvaluatesField
  rw [hMatches, noneMatchFails_iff]
  constructor
  · intro hAgrees
    by_cases hStar : ∃ line ∈ lines, line.isStar = true
    · exact .star hStar
    by_cases hWeak : ∃ tag ∈ listedTags lines,
        tag.WeaklyEqual current
    · rcases hAgrees.mpr (.inr hWeak) with
        hStar' | hHidden | ⟨hListed, hComma⟩
      · exact absurd hStar' hStar
      · exact .hidden hWeak hHidden
      · exact .listed hListed hComma
    · refine .unlisted
        (fun tag hTag hEqual => hWeak ⟨tag, hTag, hEqual⟩) ?_
      intro tag hTag hHides
      rcases hAgrees.mp (.inr (.inl ⟨tag, hTag, hHides⟩)) with
        hStar' | hWeak'
      · exact hStar hStar'
      · exact hWeak hWeak'
  · rintro (hStar | ⟨hListed, hComma⟩ | ⟨hWeak, hHidden⟩ |
      ⟨hWeak, hHidden⟩)
    · exact iff_of_true (.inl hStar) (.inl hStar)
    · exact iff_of_true (.inr (.inr ⟨hListed, hComma⟩))
        (.inr ⟨current, hListed, rfl⟩)
    · exact iff_of_true (.inr (.inl hHidden)) (.inr hWeak)
    · apply or_congr_right
      apply iff_of_false
      · rintro (⟨tag, hTag, hHides⟩ | ⟨hListed, _⟩)
        · exact hHidden tag hTag hHides
        · exact hWeak current hListed rfl
      · rintro ⟨tag, hTag, hEqual⟩
        exact hWeak tag hTag hEqual

/- The tag of the sample view. -/
def sampleTag : EntityTag where
  weak := false
  content := ['v', '1']
  valid := List.all_eq_true.mp (by decide)

/- It is recognised when it is sent back. -/
theorem evaluatesField_iff_sample :
    EvaluatesField referenceHttp
      (.single .ifNoneMatch
        (IfNoneMatchLine.ofTag sampleTag).value)
      [.ofTag sampleTag] sampleTag := by
  refine (evaluatesField_iff reference_readsVisibleAscii rfl
    ?_).mpr (.listed ?_ (by decide))
  · simp only [List.mem_singleton, forall_eq]
    decide
  · simp [listedTags, IfNoneMatchLine.listed,
      IfNoneMatchLine.ofTag]

/- A tag with a comma, and the sample tag marked weak. -/
def commaTag : EntityTag where
  weak := false
  content := ['a', ',', 'b']
  valid := List.all_eq_true.mp (by decide)

def weakTag : EntityTag :=
  { sampleTag with weak := true }

/- A page whose view has the tag with a comma. -/
def commaPage : Page :=
  { pageOf "/views" "/page" "Old" with etag := "\"a,b\"" }

/- A line that lists one tag fails for its weak equals. -/
theorem noneMatchFails_ofTag
    {tag current : EntityTag}
    (hEqual : tag.WeaklyEqual current) :
    NoneMatchFails [.ofTag tag] current :=
  .inr ⟨.ofTag tag, List.mem_singleton_self _, tag,
    List.mem_singleton_self _, hEqual⟩

/-
  The page is loaded; its tag is not recognised when it is
  sent back, and no more is the weak form of another tag.
-/
theorem evaluatesField_comma :
    loadFrom (documentExt commaPage.documents).json sampleDir
        commaPage.files sampleNow =
      .ok (commaPage.store "/page") ∧
    commaPage.viewTyped.etag = String.ofList commaTag.text ∧
    ¬EvaluatesField referenceHttp
        (.single .ifNoneMatch
          (IfNoneMatchLine.ofTag commaTag).value)
        [.ofTag commaTag] commaTag ∧
      ¬EvaluatesField referenceHttp
        (.single .ifNoneMatch
          (IfNoneMatchLine.ofTag weakTag).value)
        [.ofTag weakTag] sampleTag := by
  refine ⟨Page.loads_documents (by decide)
    (by decide) (by decide) (by decide) _
    (by decide), by decide, ?_, ?_⟩
  · intro hAgrees
    have hMatches :=
      hAgrees.mpr (noneMatchFails_ofTag rfl)
    exact absurd hMatches (by decide)
  · intro hAgrees
    have hMatches :=
      hAgrees.mpr (noneMatchFails_ofTag rfl)
    exact absurd hMatches (by decide)

end Serving

end AjarGateway
