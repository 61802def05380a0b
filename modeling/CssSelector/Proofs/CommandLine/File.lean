/-
  Selectors in a file and selectors on the command line.

  A run that takes selectors from a file comes to the same end as one that has them among its
  arguments, behind those that are there already: both write the same to both outputs and end with
  the same status (`run_eq_of_hasLines`). The file may end its lines in either way, and
  may have blank ones anywhere. This holds of every run: also of one that gives up because
  its options cannot be read, and of one that has no selectors at all.
-/
import CssSelector.CommandLine.Run
import CssSelector.Proofs.CommandLine.Arguments
import CssSelector.Proofs.Text.Lines

namespace CssSelector.CommandLine

open Text

variable {a : Arguments} {files : Files}

/-- What a run comes to depends on the report on its arguments. -/
theorem run_congr {b : Arguments} {files' : Files} {args args' : List Text}
    (h : Request.ofArguments? args = some (.run a))
    (h' : Request.ofArguments? args' = some (.run b))
    (hreport : reportOnArguments b files' = reportOnArguments a files) :
    run args' files' = run args files := by
  unfold run
  simp only [h, h', hreport]

/-- The selectors of a file are the lines that it was put together from. -/
theorem selectorLines_of_hasLines {xs : List Text} {content : Text} (h : HasLines xs content)
    (hxs : ∀ x ∈ xs, IsWholeLine x) : Arguments.selectorLines content = xs :=
  h.filter_lines hxs

/-- Only the file with the options is looked at for options. -/
theorem configured_congr {files' : Files} (h : ∀ p, a.config = some p → files' p = files p) :
    a.configured files' = a.configured files := by
  unfold Arguments.configured
  cases hconfig : a.config with
  | none => rfl
  | some path =>
    dsimp only
    rw [h path hconfig]

/-- The same report, with the selectors in the place of the file that holds them. -/
theorem reportOnArguments_selectors {path content : Text} {files' : Files}
    (ha : a.file = some path) (hfile : files path = some content)
    (hconfig : ∀ p, a.config = some p → files' p = files p) :
    reportOnArguments { a with
        file := none
        selectors := a.selectors ++ Arguments.selectorLines content } files' =
      reportOnArguments a files := by
  have hinputs : a.inputs files = .ok (a.selectors ++ Arguments.selectorLines content) := by
    rw [Arguments.inputs, ha]
    dsimp only
    rw [hfile]
  have hconfigured := configured_congr hconfig
  unfold reportOnArguments
  rw [hinputs, ← hconfigured]
  rfl

/-- **Selectors from a file are treated like those on the command line.** Let a run be asked for
that takes further selectors from a file, and let the file be put together from the lines `xs` and
any number of blank ones. Then its selectors are `xs`, none of them lost, cut, merged with another
or moved. The same run can be asked for with `xs` behind the other selectors and without the
file; and however that is done, and whatever files there are then besides the one with the
options, it comes to the same outputs and the same status. -/
theorem run_eq_of_hasLines (files : Files) {xs : List Text} {content : Text}
    (hlines : HasLines xs content) (hxs : ∀ x ∈ xs, IsWholeLine x) {path : Text}
    (ha : a.file = some path) (hfile : files path = some content) {args : List Text}
    (hargs : Request.ofArguments? args = some (.run a)) :
    Arguments.selectorLines content = xs ∧
    (∃ args', Request.ofArguments? args' =
      some (.run { a with file := none, selectors := a.selectors ++ xs })) ∧
    ∀ args' files', Request.ofArguments? args' =
        some (.run { a with file := none, selectors := a.selectors ++ xs }) →
      (∀ p, a.config = some p → files' p = files p) → run args' files' = run args files := by
  have hselectors := selectorLines_of_hasLines hlines hxs
  refine ⟨hselectors, ?_, ?_⟩
  · have hconfig := (namesFiles_of_ofArguments? hargs).config_ne
    exact exists_ofArguments?_iff.2 ⟨by simp, hconfig⟩
  · intro args' files' hargs' hconfig
    have hreport := reportOnArguments_selectors ha hfile hconfig
    rw [hselectors] at hreport
    exact run_congr hargs hargs' hreport

/-- Lines with blanks around them and a carriage return inside, and blank lines of several kinds
between them; the last line is not ended. -/
theorem run_eq_of_hasLines_mixed :
    HasLines [" .a ".toList, "#b\r~c".toList, ">d".toList]
        "\u00a0\r\r\n .a \r\n\n#b\r~c\n>d".toList ∧
      (∀ x ∈ [" .a ".toList, "#b\r~c".toList, ">d".toList], IsWholeLine x) ∧
      Request.ofArguments? ["-jflist".toList, "e".toList] =
        some (.run { selectors := ["e".toList], file := some "list".toList, json := true }) ∧
      run ["-j".toList, "--".toList, "e".toList, " .a ".toList, "#b\r~c".toList, ">d".toList]
          (fun _ => none) =
        run ["-jflist".toList, "e".toList]
          (fun _ => some "\u00a0\r\r\n .a \r\n\n#b\r~c\n>d".toList) := by
  have hlines : HasLines [" .a ".toList, "#b\r~c".toList, ">d".toList]
      "\u00a0\r\r\n .a \r\n\n#b\r~c\n>d".toList := by
    have h₀ : HasLines [">d".toList] ">d".toList := .last _
    have h₁ := h₀.line (x := "#b\r~c".toList) (e := ['\n']) (by simp [lineEnds])
    have h₂ := h₁.blank (w := []) (e := ['\n']) (by simp) (by simp [lineEnds])
    have h₃ := h₂.line (x := " .a ".toList) (e := ['\r', '\n']) (by simp [lineEnds])
    have hblank : ∀ c ∈ ['\u00a0', '\r'], isSpace c ∧ c ≠ '\n' := by
      simp only [List.forall_mem_cons]
      exact ⟨by decide, by decide, by simp⟩
    exact h₃.blank (e := ['\r', '\n']) hblank (by simp [lineEnds])
  have hxs : ∀ x ∈ [" .a ".toList, "#b\r~c".toList, ">d".toList], IsWholeLine x := by
    simp only [List.forall_mem_cons]
    refine ⟨?_, ?_, ?_, by simp⟩
    · exact ⟨by decide, by decide, '.', by decide, by decide⟩
    · exact ⟨by decide, by decide, '#', by decide, by decide⟩
    · exact ⟨by decide, by decide, '>', by decide, by decide⟩
  have hargs : Request.ofArguments? ["-jflist".toList, "e".toList] =
      some (.run { selectors := ["e".toList], file := some "list".toList, json := true }) := by
    decide +kernel
  have hargs' : Request.ofArguments?
      ["-j".toList, "--".toList, "e".toList, " .a ".toList, "#b\r~c".toList, ">d".toList] =
        some (.run { selectors := ["e".toList] ++ [" .a ".toList, "#b\r~c".toList, ">d".toList],
                     json := true }) := by
    decide +kernel
  obtain ⟨-, -, hrun⟩ := run_eq_of_hasLines
    (fun _ => some "\u00a0\r\r\n .a \r\n\n#b\r~c\n>d".toList) hlines hxs rfl rfl hargs
  exact ⟨hlines, hxs, hargs, hrun _ _ hargs' (by simp)⟩

end CssSelector.CommandLine
