import AjarGateway.Http.Message
import AjarGateway.Http.AcceptField

/-
  Entity tags and the If-None-Match field.

  An entity tag is a quoted string that may be marked weak.
  The field is a star, or a list of tags; tags hold commas,
  so that the commas of a field do not all separate tags.

  Key definitions include:
    * `Http.EntityTag`
    * `Http.IfNoneMatchLine`
    * `Http.NoneMatchFails`

  Key theorems include:
    * `Http.EntityTag.text_injective`
    * `Http.EntityTag.exists_part_iff`
-/

------------------------------------------------------------
-- Entity Tags
------------------------------------------------------------

namespace Http

/-
  A character of an entity tag: no quote, space or control
  character.
-/
def isEtagChar (c : Char) : Bool :=
  c == '!' || ('#' ≤ c && c ≤ '~') || 128 ≤ c.toNat

structure EntityTag where
  weak : Bool
  content : List Char
  valid : ∀ c ∈ content, isEtagChar c = true

namespace EntityTag

/- The mark of a weak tag. -/
def mark (tag : EntityTag) : List Char :=
  if tag.weak then ['W', '/'] else []

def text (tag : EntityTag) : List Char :=
  tag.mark ++ '"' :: tag.content ++ ['"']

/- The weak comparison ignores the mark. -/
def WeaklyEqual (first second : EntityTag) : Prop :=
  first.content = second.content

/- A part of the tag between two of its commas is a star. -/
def HidesStar (tag : EntityTag) : Prop :=
  ['*'] ∈ (tag.content.splitOn ',').tail.dropLast

instance (tag : EntityTag) : Decidable tag.HidesStar := by
  unfold HidesStar
  infer_instance

end EntityTag

end Http

------------------------------------------------------------
-- The Field
------------------------------------------------------------

namespace Http

/- An item between optional whitespace. -/
structure Padded (α : Type) where
  before : List Char
  item : α
  after : List Char
  blank_before : ∀ c ∈ before, isOws c = true
  blank_after : ∀ c ∈ after, isOws c = true

/-
  One line of the field: a star, or a list in which elements
  may be empty.
-/
inductive IfNoneMatchLine where
  | star (padding : Padded Unit)
  | tags (elements : List (Padded (Option EntityTag)))

/- The text of a list element. -/
def elementText
    (element : Padded (Option EntityTag)) : List Char :=
  element.before ++
    (element.item.map EntityTag.text).getD [] ++
      element.after

namespace IfNoneMatchLine

def text : IfNoneMatchLine → List Char
| .star padding => padding.before ++ ['*'] ++ padding.after
| .tags elements => [','].intercalate (elements.map elementText)

/- The tags that a line lists. -/
def listed : IfNoneMatchLine → List EntityTag
| .star _ => []
| .tags elements => elements.filterMap Padded.item

def isStar : IfNoneMatchLine → Bool
| .star _ => true
| .tags _ => false

/- The header value of a line. -/
def value (line : IfNoneMatchLine) : HeaderValue :=
  .fromStatic (String.ofList line.text)

end IfNoneMatchLine

/- A line that lists one tag. -/
def IfNoneMatchLine.ofTag
    (tag : EntityTag) : IfNoneMatchLine :=
  .tags
    [{  before := []
        item := some tag
        after := []
        blank_before := by simp
        blank_after := by simp }]

/-
  What makes the condition of a request fail: a star, or a
  listed tag that is weakly equal to the current one.
-/
def NoneMatchFails
    (lines : List IfNoneMatchLine)
    (current : EntityTag) : Prop :=
  (∃ line ∈ lines, line.isStar = true) ∨
    ∃ line ∈ lines, ∃ tag ∈ line.listed,
      tag.WeaklyEqual current

end Http

------------------------------------------------------------
-- Tags Cut At Commas
------------------------------------------------------------

namespace Http

namespace EntityTag

variable (tag current : EntityTag)

theorem quote_not_mem : '"' ∉ tag.content := by
  intro hMem
  exact absurd (tag.valid _ hMem) (by decide)

theorem count_quote_content : tag.content.count '"' = 0 :=
  List.count_eq_zero.mpr tag.quote_not_mem

theorem count_quote_mark : tag.mark.count '"' = 0 := by
  unfold mark
  split <;> decide

theorem comma_not_mem_mark : ',' ∉ tag.mark := by
  unfold mark
  split <;> decide

theorem count_quote_text : tag.text.count '"' = 2 := by
  simp [text, tag.count_quote_content, tag.count_quote_mark]

theorem text_injective
    {first second : EntityTag}
    (hText : first.text = second.text) :
    first = second := by
  rcases first with ⟨weak, content, valid⟩
  rcases second with ⟨weak', content', valid'⟩
  have hWeak : weak = weak' := by
    cases weak <;> cases weak' <;>
      simp [text, mark] at hText ⊢
  subst hWeak
  have hContent : content = content' := by
    simpa [text, mark] using hText
  subst hContent
  rfl

end EntityTag

/- A part of a field that is taken as a star or a tag. -/
def IsCandidate
    (current : EntityTag)
    (part : List Char) : Prop :=
  Rust.trim part = ['*'] ∨ Rust.trim part = current.text

variable {current : EntityTag}

theorem count_quote_trim (part : List Char) :
    (Rust.trim part).count '"' = part.count '"' :=
  Rust.count_trimMatches (by decide) part

/- Half a quoted string is taken as neither. -/
theorem not_isCandidate_of_quote
    {part : List Char}
    (hQuote : part.count '"' = 1) :
    ¬IsCandidate current part := by
  have hTrim := count_quote_trim part
  rw [hQuote] at hTrim
  rintro (hStar | hTag)
  · rw [hStar] at hTrim
    exact absurd hTrim (by decide)
  · rw [hTag, current.count_quote_text] at hTrim
    exact absurd hTrim (by decide)

theorem not_isCandidate_nil :
    ¬IsCandidate current [] := by
  rintro (hStar | hTag)
  · cases hStar
  · have hCount := current.count_quote_text
    rw [← hTag] at hCount
    cases hCount

theorem isWhitespace_of_isOws
    {c : Char}
    (hOws : isOws c = true) :
    Rust.isWhitespace c = true := by
  simp only [isOws, Bool.or_eq_true, beq_iff_eq] at hOws
  rcases hOws with rfl | rfl
  · decide
  · decide

/- An ASCII character of a tag is no whitespace. -/
theorem isWhitespace_of_isEtagChar
    {c : Char}
    (hEtag : isEtagChar c = true)
    (hAscii : c.toNat < 128) :
    Rust.isWhitespace c = false := by
  have hCodes : ∀ n < 128,
      isEtagChar (Char.ofNat n) = true →
        Rust.isWhitespace (Char.ofNat n) = false := by
    decide
  rw [← Char.ofNat_toNat c] at hEtag ⊢
  exact hCodes c.toNat hAscii hEtag

theorem comma_not_mem_of_isOws
    {blanks : List Char}
    (hBlanks : ∀ c ∈ blanks, isOws c = true) :
    ',' ∉ blanks :=
  fun hMem => absurd (hBlanks _ hMem) (by decide)

theorem count_quote_of_isOws
    {blanks : List Char}
    (hBlanks : ∀ c ∈ blanks, isOws c = true) :
    blanks.count '"' = 0 :=
  List.count_eq_zero.mpr
    fun hMem => absurd (hBlanks _ hMem) (by decide)

/- What surrounds a tag is trimmed. -/
theorem trim_surrounded
    {before after text : List Char}
    (hBefore : ∀ c ∈ before, isOws c = true)
    (hAfter : ∀ c ∈ after, isOws c = true)
    (hFirst : ∀ c ∈ text.head?, Rust.isWhitespace c = false)
    (hLast : ∀ c ∈ text.getLast?,
      Rust.isWhitespace c = false) :
    Rust.trim (before ++ text ++ after) = text :=
  Rust.trimMatches_surrounded
    (fun c hMem => isWhitespace_of_isOws (hBefore c hMem))
    (fun c hMem => isWhitespace_of_isOws (hAfter c hMem))
    hFirst hLast

namespace EntityTag

variable {tag : EntityTag} {before after : List Char}

theorem trim_text
    (hBefore : ∀ c ∈ before, isOws c = true)
    (hAfter : ∀ c ∈ after, isOws c = true) :
    Rust.trim (before ++ tag.text ++ after) = tag.text := by
  apply trim_surrounded hBefore hAfter
  · intro c hHead
    unfold text mark at hHead
    split at hHead
    · cases hHead
      decide
    · cases hHead
      decide
  · intro c hLast
    rw [text, List.getLast?_concat] at hLast
    cases hLast
    decide

/- A tag without a comma is one part. -/
theorem exists_part_iff_of_no_comma
    (hBefore : ∀ c ∈ before, isOws c = true)
    (hAfter : ∀ c ∈ after, isOws c = true)
    (hComma : ',' ∉ tag.content) :
    (∃ part ∈ (before ++ tag.text ++ after).splitOn ',',
        IsCandidate current part) ↔
      tag = current := by
  have hWhole : ',' ∉ before ++ tag.text ++ after := by
    simp [text, comma_not_mem_of_isOws hBefore,
      comma_not_mem_of_isOws hAfter, hComma,
      tag.comma_not_mem_mark]
  rw [List.splitOn_eq_singleton hWhole]
  simp only [List.mem_singleton, exists_eq_left, IsCandidate,
    trim_text hBefore hAfter]
  constructor
  · rintro (hStar | hTag)
    · have hCount := tag.count_quote_text
      rw [hStar] at hCount
      cases hCount
    · exact text_injective hTag
  · rintro rfl
    exact .inr rfl

/- A tag with commas is cut inside its quoted string. -/
theorem splitOn_text_of_comma
    (hBefore : ∀ c ∈ before, isOws c = true)
    (hAfter : ∀ c ∈ after, isOws c = true)
    (hComma : ',' ∈ tag.content) :
    ∃ first last,
      first ⊆ tag.content ∧ last ⊆ tag.content ∧
        (before ++ tag.text ++ after).splitOn ',' =
          (before ++ tag.mark ++ '"' :: first) ::
            ((tag.content.splitOn ',').tail.dropLast ++
              [last ++ '"' :: after]) := by
  rcases List.eq_append_cons_of_mem hComma with
    ⟨first, rest, hContent, hFirst⟩
  have hEnd : ',' ∉ '"' :: after := by
    simp [comma_not_mem_of_isOws hAfter]
  rcases Rust.splitOn_append_of_not_mem rest hEnd with
    ⟨parts, last, hRest, hRestEnd⟩
  have hOpen : ',' ∉ before ++ tag.mark ++ '"' :: first := by
    simp [comma_not_mem_of_isOws hBefore, hFirst,
      tag.comma_not_mem_mark]
  have hText :
      before ++ tag.text ++ after =
        (before ++ tag.mark ++ '"' :: first) ++
          ',' :: (rest ++ '"' :: after) := by
    simp [text, hContent]
  have hInner :
      (tag.content.splitOn ',').tail.dropLast = parts := by
    rw [hContent,
      List.splitOn_append_cons_self_of_not_mem hFirst, hRest,
      List.tail_cons, List.dropLast_concat]
  have hLastPart : last ∈ rest.splitOn ',' := by
    rw [hRest]
    exact List.mem_append_right _ (List.mem_singleton_self _)
  refine ⟨first, last, ?_, ?_, ?_⟩
  · rw [hContent]
    exact List.subset_append_left _ _
  · rw [hContent]
    exact List.Subset.trans
      (Rust.subset_of_mem_splitOn hLastPart)
      (List.Subset.trans (List.subset_cons_self _ _)
        (List.subset_append_right _ _))
  · rw [hText,
      List.splitOn_append_cons_self_of_not_mem hOpen,
      hRestEnd, hInner]

/- What is taken from a quoted string has no quote. -/
theorem count_quote_of_subset
    {part : List Char}
    (hPart : part ⊆ tag.content) :
    part.count '"' = 0 :=
  List.count_eq_zero.mpr fun hMem =>
    tag.quote_not_mem (hPart hMem)

/- A part between two commas is no current tag. -/
theorem isCandidate_of_subset
    {part : List Char}
    (hPart : part ⊆ tag.content)
    (hAscii : ∀ c ∈ tag.content, c.toNat < 128)
    (hCandidate : IsCandidate current part) :
    part = ['*'] := by
  have hKept : Rust.trim part = part := by
    apply Rust.trimMatches_of_none
    intro c hMem
    exact isWhitespace_of_isEtagChar
      (tag.valid c (hPart hMem)) (hAscii c (hPart hMem))
  unfold IsCandidate at hCandidate
  rw [hKept] at hCandidate
  rcases hCandidate with hStar | hTag
  · exact hStar
  · have hCount := current.count_quote_text
    rw [← hTag, count_quote_of_subset hPart] at hCount
    cases hCount

/- Only a part between two commas is taken for a star. -/
theorem exists_part_iff_of_comma
    (hBefore : ∀ c ∈ before, isOws c = true)
    (hAfter : ∀ c ∈ after, isOws c = true)
    (hAscii : ∀ c ∈ tag.content, c.toNat < 128)
    (hComma : ',' ∈ tag.content) :
    (∃ part ∈ (before ++ tag.text ++ after).splitOn ',',
        IsCandidate current part) ↔
      tag.HidesStar := by
  rcases splitOn_text_of_comma hBefore hAfter hComma with
    ⟨first, last, hFirst, hLast, hParts⟩
  unfold HidesStar
  rw [hParts]
  constructor
  · rintro ⟨part, hPart, hCandidate⟩
    rw [List.mem_cons, List.mem_append,
      List.mem_singleton] at hPart
    rcases hPart with rfl | hPart | rfl
    · refine absurd hCandidate (not_isCandidate_of_quote ?_)
      simp [count_quote_of_subset hFirst,
        count_quote_of_isOws hBefore, tag.count_quote_mark]
    · have hSubset : part ⊆ tag.content :=
        Rust.subset_of_mem_splitOn
          (List.mem_of_mem_tail
            ((List.dropLast_sublist _).subset hPart))
      rwa [← isCandidate_of_subset hSubset hAscii hCandidate]
    · refine absurd hCandidate (not_isCandidate_of_quote ?_)
      simp [count_quote_of_subset hLast,
        count_quote_of_isOws hAfter]
  · intro hStar
    exact ⟨['*'], List.mem_cons_of_mem _
      (List.mem_append_left _ hStar), .inl (by decide)⟩

/- When an element is taken for a star or a current tag. -/
theorem exists_part_iff
    (hBefore : ∀ c ∈ before, isOws c = true)
    (hAfter : ∀ c ∈ after, isOws c = true)
    (hAscii : ∀ c ∈ tag.content, c.toNat < 128) :
    (∃ part ∈ (before ++ tag.text ++ after).splitOn ',',
        IsCandidate current part) ↔
      tag.HidesStar ∨ (',' ∉ tag.content ∧ tag = current) := by
  by_cases hComma : ',' ∈ tag.content
  · rw [exists_part_iff_of_comma hBefore hAfter hAscii hComma]
    simp [hComma]
  · have hNone : ¬tag.HidesStar := by
      unfold HidesStar
      rw [List.splitOn_eq_singleton hComma]
      simp
    rw [exists_part_iff_of_no_comma hBefore hAfter hComma]
    simp [hComma, hNone]

end EntityTag

/- An element is taken for what it is, or cut at commas. -/
theorem exists_part_element_iff
    (element : Padded (Option EntityTag))
    (hAscii : ∀ c ∈ elementText element, c.toNat < 128) :
    (∃ part ∈ (elementText element).splitOn ',',
        IsCandidate current part) ↔
      ∃ tag, element.item = some tag ∧
        (tag.HidesStar ∨
          (',' ∉ tag.content ∧ tag = current)) := by
  rcases element with ⟨before, item, after, hBefore, hAfter⟩
  cases item with
  | none =>
      have hNoComma : ',' ∉ before ++ [] ++ after := by
        simp [comma_not_mem_of_isOws hBefore,
          comma_not_mem_of_isOws hAfter]
      have hBlank : Rust.trim (before ++ [] ++ after) = [] :=
        trim_surrounded hBefore hAfter (by simp) (by simp)
      have hNone :
          ¬IsCandidate current (before ++ [] ++ after) := by
        have hNil := @not_isCandidate_nil current
        unfold IsCandidate at hNil ⊢
        rw [hBlank]
        exact hNil
      show (∃ part ∈ (before ++ [] ++ after).splitOn ',', _) ↔ _
      rw [List.splitOn_eq_singleton hNoComma]
      simpa using hNone
  | some tag =>
      have hContent : ∀ c ∈ tag.content, c.toNat < 128 := by
        intro c hMem
        apply hAscii
        simp [elementText, EntityTag.text, hMem]
      show (∃ part ∈ (before ++ tag.text ++ after).splitOn ',',
        _) ↔ _
      rw [EntityTag.exists_part_iff hBefore hAfter hContent]
      simp

theorem mem_intercalate_of_mem
    {separator piece : List Char}
    {pieces : List (List Char)}
    {c : Char}
    (hPiece : piece ∈ pieces)
    (hChar : c ∈ piece) :
    c ∈ separator.intercalate pieces := by
  induction pieces with
  | nil => cases hPiece
  | cons first rest ih =>
      rcases List.mem_cons.mp hPiece with rfl | hRest
      · cases rest with
        | nil => simpa using hChar
        | cons next others => simp [hChar]
      · rw [List.intercalate_cons_of_ne_nil
          (List.ne_nil_of_mem hRest)]
        exact List.mem_append_right _ (ih hRest)

/- The same for the elements of a line. -/
theorem exists_part_line_iff
    (line : IfNoneMatchLine)
    (hAscii : ∀ c ∈ line.text, c.toNat < 128) :
    (∃ part ∈ line.text.splitOn ',',
        IsCandidate current part) ↔
      line.isStar = true ∨
        ∃ tag ∈ line.listed,
          tag.HidesStar ∨
            (',' ∉ tag.content ∧ tag = current) := by
  cases line with
  | star padding =>
      rcases padding with
        ⟨before, _, after, hBefore, hAfter⟩
      have hNoComma : ',' ∉ before ++ ['*'] ++ after := by
        simp [comma_not_mem_of_isOws hBefore,
          comma_not_mem_of_isOws hAfter]
      have hTrim : Rust.trim (before ++ ['*'] ++ after) = ['*'] :=
        trim_surrounded hBefore hAfter
          (by simp; decide) (by simp; decide)
      show (∃ part ∈ (before ++ ['*'] ++ after).splitOn ',',
        _) ↔ _
      rw [List.splitOn_eq_singleton hNoComma]
      simp only [List.mem_singleton, exists_eq_left]
      exact iff_of_true (.inl hTrim) (.inl rfl)
  | tags elements =>
      by_cases hEmpty : elements = []
      · simp [hEmpty, IfNoneMatchLine.text,
          IfNoneMatchLine.listed, IfNoneMatchLine.isStar,
          not_isCandidate_nil]
      · have hElement : ∀ element ∈ elements,
            (∃ part ∈ (elementText element).splitOn ',',
                IsCandidate current part) ↔
              ∃ tag, element.item = some tag ∧
                (tag.HidesStar ∨
                  (',' ∉ tag.content ∧ tag = current)) := by
          intro element hMem
          apply exists_part_element_iff
          intro c hChar
          apply hAscii
          exact mem_intercalate_of_mem
            (List.mem_map_of_mem hMem) hChar
        rw [IfNoneMatchLine.text,
          Rust.splitOn_intercalate_pieces (by simpa),
          List.flatMap_map]
        constructor
        · rintro ⟨part, hPart, hCandidate⟩
          rcases List.mem_flatMap.mp hPart with
            ⟨element, hMem, hPart⟩
          rcases (hElement element hMem).mp
              ⟨part, hPart, hCandidate⟩ with
            ⟨tag, hItem, hTag⟩
          exact .inr ⟨tag,
            List.mem_filterMap.mpr ⟨element, hMem, hItem⟩,
            hTag⟩
        · rintro (hStar | ⟨tag, hListed, hTag⟩)
          · cases hStar
          · rcases List.mem_filterMap.mp hListed with
              ⟨element, hMem, hItem⟩
            rcases (hElement element hMem).mpr
                ⟨tag, hItem, hTag⟩ with
              ⟨part, hPart, hCandidate⟩
            exact ⟨part,
              List.mem_flatMap.mpr ⟨element, hMem, hPart⟩,
              hCandidate⟩

end Http
