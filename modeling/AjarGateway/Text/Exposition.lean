import Mathlib.Data.List.Basic

/-
  Numbers in lines of text.

  Each line holds a label, a blank and a decimal number.
  What is rendered so is read back, as long as no label has
  a blank or a line break.

  Key definitions include:
    * `Exposition.Sample`
    * `Exposition.render`
    * `Exposition.read`

  Key theorems include:
    * `Exposition.read_render`
-/

------------------------------------------------------------
-- Rendering And Reading
------------------------------------------------------------

namespace Exposition

structure Sample where
  label : List Char
  value : Nat
  deriving DecidableEq, Repr

/- One line, without its line break. -/
def Sample.line (sample : Sample) : List Char :=
  sample.label ++ ' ' :: Nat.toDigits 10 sample.value

/- One line for each sample, each with its line break. -/
def render (samples : List Sample) : List Char :=
  samples.flatMap fun sample => sample.line ++ ['\n']

/- A number in decimal digits. -/
def readValue (text : List Char) : Option Nat :=
  if text ≠ [] ∧ text.all Char.isDigit then
    some (Nat.ofDigitChars 10 text 0)
  else
    none

def readLine (line : List Char) : Option Sample :=
  match line.splitOn ' ' with
  | [label, digits] => do
      let value ← readValue digits
      return ⟨label, value⟩
  | _ => none

/- The lines of a text that ends with a line break. -/
def readLines : List (List Char) → Option (List Sample)
| [[]] => some []
| line :: rest => do
    let sample ← readLine line
    let samples ← readLines rest
    return sample :: samples
| [] => none

def read (text : List Char) : Option (List Sample) :=
  readLines (text.splitOn '\n')

end Exposition

------------------------------------------------------------
-- What Is Rendered Is Read
------------------------------------------------------------

namespace Exposition

/- A label that can be told from what follows it. -/
def Sample.Plain (sample : Sample) : Prop :=
  ' ' ∉ sample.label ∧ '\n' ∉ sample.label

theorem not_mem_toDigits
    {separator : Char}
    (hSeparator : separator.isDigit = false)
    (value : Nat) :
    separator ∉ Nat.toDigits 10 value := by
  intro hMem
  have hDigit :=
    Nat.isDigit_of_mem_toDigits (by decide) (by decide) hMem
  rw [hSeparator] at hDigit
  cases hDigit

theorem readValue_toDigits (value : Nat) :
    readValue (Nat.toDigits 10 value) = some value := by
  have hAll :
      (Nat.toDigits 10 value).all Char.isDigit = true :=
    List.all_eq_true.mpr fun c hMem =>
      Nat.isDigit_of_mem_toDigits (by decide) (by decide)
        hMem
  rw [readValue,
    if_pos ⟨Nat.toDigits_ne_nil, hAll⟩,
    Nat.ofDigitChars_ten_toDigits]

theorem readLine_line
    {sample : Sample}
    (hPlain : sample.Plain) :
    readLine sample.line = some sample := by
  have hParts :
      sample.line.splitOn ' ' =
        [sample.label, Nat.toDigits 10 sample.value] := by
    rw [Sample.line,
      List.splitOn_append_cons_self_of_not_mem hPlain.1,
      List.splitOn_eq_singleton
        (not_mem_toDigits rfl sample.value)]
  rw [readLine, hParts]
  simp [readValue_toDigits]

theorem not_mem_line
    {sample : Sample}
    (hPlain : sample.Plain) :
    '\n' ∉ sample.line := by
  rw [Sample.line, List.mem_append, List.mem_cons]
  rintro (hLabel | hBlank | hDigits)
  · exact hPlain.2 hLabel
  · cases hBlank
  · exact not_mem_toDigits rfl sample.value hDigits

theorem line_ne_nil (sample : Sample) :
    sample.line ≠ [] := by
  simp [Sample.line]

/- Samples with plain labels are read as they were. -/
theorem read_render
    (samples : List Sample)
    (hPlain : ∀ sample ∈ samples, sample.Plain) :
    read (render samples) = some samples := by
  induction samples with
  | nil => rfl
  | cons sample rest ih =>
      rw [List.forall_mem_cons] at hPlain
      have hRest := ih hPlain.2
      have hText :
          render (sample :: rest) =
            sample.line ++ '\n' :: render rest := by
        simp [render]
      rw [read] at hRest ⊢
      rw [hText,
        List.splitOn_append_cons_self_of_not_mem
          (not_mem_line hPlain.1)]
      cases hLine : sample.line with
      | nil => exact absurd hLine (line_ne_nil sample)
      | cons first others =>
          rw [readLines, ← hLine, readLine_line hPlain.1,
            hRest]
          · rfl
          · rintro hFirst _
            cases hFirst

end Exposition
