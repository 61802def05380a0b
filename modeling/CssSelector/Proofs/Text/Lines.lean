/-
  The lines of a text, told from how the text is put together.

  A text may be put together from lines, each with a line feed or a carriage return and a line feed
  behind it, and from lines with nothing but white space wherever one likes (`HasLines`).
  Taken apart again, it has the very same lines, in the same order, once those that hold white
  space alone are left out (`HasLines.filter_lines`).

  A carriage return just before a line feed is part of what ends a line, so a line that ends in
  one would lose it, and a line of white space alone would be left out. Lines that have neither
  fault, and no line feed, are `IsWholeLine`.
-/
import CssSelector.Text.Lines

namespace CssSelector.Text

/-! ### One line -/

/-- What a line is ended by. -/
def lineEnds : List Text :=
  [['\n'], ['\r', '\n']]

theorem linesFrom_append {x : Text} (hx : '\n' ∉ x) (line s : Text) :
    linesFrom line (x ++ s) = linesFrom (x.reverse ++ line) s := by
  induction x generalizing line with
  | nil => rfl
  | cons c x ih =>
    simp only [List.mem_cons, not_or] at hx
    have hreverse : (c :: x).reverse ++ line = x.reverse ++ c :: line := by simp
    rw [List.cons_append, linesFrom, if_neg (Ne.symm hx.1), ih hx.2, hreverse]

/-- A line feed ends the line before it. -/
theorem lines_append_lineFeed {x : Text} (hx : '\n' ∉ x) (s : Text) :
    lines (x ++ '\n' :: s) = endedLine x.reverse :: lines s := by
  rw [lines, linesFrom_append hx, List.append_nil, linesFrom, if_pos rfl]
  rfl

/-- The last line need not be ended. -/
theorem lines_of_not_mem {x : Text} (hx : '\n' ∉ x) : lines x = if x = [] then [] else [x] := by
  have h := linesFrom_append hx [] []
  rw [List.append_nil, List.append_nil] at h
  rw [lines, h]
  simp [linesFrom]

theorem mem_of_mem_endedLine {line : Text} {c : Char} (h : c ∈ endedLine line) : c ∈ line := by
  unfold endedLine at h
  split at h
  · exact List.mem_cons_of_mem _ (List.mem_reverse.1 h)
  · exact List.mem_reverse.1 h

/-- A line that does not end in a carriage return has all its characters. -/
theorem endedLine_reverse {x : Text} (h : x.getLast? ≠ some '\r') : endedLine x.reverse = x := by
  unfold endedLine
  split
  next line hline =>
    rw [← List.head?_reverse, hline] at h
    exact absurd rfl h
  next => exact List.reverse_reverse x

/-- A carriage return before the line feed is no part of the line. -/
theorem endedLine_append_carriageReturn (x : Text) : endedLine (x ++ ['\r']).reverse = x := by
  rw [List.reverse_append]
  exact List.reverse_reverse x

/-- A line and what ends it: the text has this line first. Only a carriage return at its end
may be lost. -/
theorem exists_lines_append {x e : Text} (hx : '\n' ∉ x) (he : e ∈ lineEnds) (s : Text) :
    ∃ y, lines (x ++ e ++ s) = y :: lines s ∧ (∀ c ∈ y, c ∈ x) ∧
      (x.getLast? ≠ some '\r' → y = x) := by
  simp only [lineEnds, List.mem_cons, List.not_mem_nil, or_false] at he
  rcases he with rfl | rfl
  · refine ⟨endedLine x.reverse, ?_, ?_, endedLine_reverse⟩
    · rw [List.append_assoc, List.singleton_append, lines_append_lineFeed hx]
    · intro c hc
      exact List.mem_reverse.1 (mem_of_mem_endedLine hc)
  · refine ⟨x, ?_, fun _ hc => hc, fun _ => rfl⟩
    have hx' : '\n' ∉ x ++ ['\r'] := by simp [hx]
    have hsplit : x ++ ['\r', '\n'] ++ s = (x ++ ['\r']) ++ '\n' :: s := by simp
    rw [hsplit, lines_append_lineFeed hx', endedLine_append_carriageReturn]

/-- Of two carriage returns before a line feed, the first one belongs to the line. -/
example : lines "a\r\r\nb\r".toList = ["a\r".toList, "b\r".toList] := by decide

/-! ### Many lines -/

/-- The text `s` holds the lines `xs`, in this order, and any number of lines with nothing but white
space before, between and after them. Every line is ended, but the last one need not be. -/
inductive HasLines : List Text → Text → Prop where
  | last (x : Text) : HasLines [x] x
  | lastBlank {w : Text} (hw : ∀ c ∈ w, isSpace c ∧ c ≠ '\n') : HasLines [] w
  | line {x e s : Text} {xs : List Text} (he : e ∈ lineEnds) (h : HasLines xs s) :
      HasLines (x :: xs) (x ++ e ++ s)
  | blank {w e s : Text} {xs : List Text} (hw : ∀ c ∈ w, isSpace c ∧ c ≠ '\n')
      (he : e ∈ lineEnds) (h : HasLines xs s) : HasLines xs (w ++ e ++ s)

/-- A line that is kept as it is: it is one line, it does not end in a carriage return, and it holds
more than white space. -/
structure IsWholeLine (x : Text) : Prop where
  lineFeed_not_mem : '\n' ∉ x
  getLast?_ne : x.getLast? ≠ some '\r'
  exists_mem : ∃ c ∈ x, isSpace c = false

theorem IsWholeLine.isBlankLine_eq {x : Text} (h : IsWholeLine x) : x.isBlankLine = false := by
  obtain ⟨c, hc, hspace⟩ := h.exists_mem
  exact List.all_eq_false.2 ⟨c, hc, by simp [hspace]⟩

theorem IsWholeLine.ne_nil {x : Text} (h : IsWholeLine x) : x ≠ [] := by
  rintro rfl
  obtain ⟨c, hc, -⟩ := h.exists_mem
  cases hc

/-- **No line is lost, cut, merged with another or moved**, and no line of white space is left. By
induction on how the text is put together. -/
theorem HasLines.filter_lines {xs : List Text} {s : Text} (h : HasLines xs s)
    (hxs : ∀ x ∈ xs, IsWholeLine x) : (s.lines.filter fun line => !line.isBlankLine) = xs := by
  induction h with
  | last x =>
    have hx := hxs x (List.mem_singleton_self x)
    rw [lines_of_not_mem hx.lineFeed_not_mem, if_neg hx.ne_nil]
    simp [hx.isBlankLine_eq]
  | @lastBlank w hw =>
    have hfeed : '\n' ∉ w := fun hmem => (hw _ hmem).2 rfl
    have hblank : w.isBlankLine = true := List.all_eq_true.2 fun c hc => (hw c hc).1
    rw [lines_of_not_mem hfeed]
    split
    · rfl
    · simp [hblank]
  | @line x e s xs he _ ih =>
    obtain ⟨hx, hrest⟩ := List.forall_mem_cons.1 hxs
    obtain ⟨y, hlines, -, hy⟩ := exists_lines_append hx.lineFeed_not_mem he s
    obtain rfl := hy hx.getLast?_ne
    rw [hlines, List.filter_cons_of_pos (by simp [hx.isBlankLine_eq]), ih hrest]
  | @blank w e s xs hw he _ ih =>
    have hfeed : '\n' ∉ w := fun hmem => (hw _ hmem).2 rfl
    obtain ⟨y, hlines, hmem, -⟩ := exists_lines_append hfeed he s
    have hblank : y.isBlankLine = true :=
      List.all_eq_true.2 fun c hc => (hw c (hmem c hc)).1
    rw [hlines, List.filter_cons_of_neg (by simp [hblank]), ih hxs]

end CssSelector.Text
