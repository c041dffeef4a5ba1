import SceneLang.Error.Report
import Mathlib.Algebra.Ring.Nat
import Mathlib.Data.List.Basic

/-!
# Places and excerpts

The line and the column of a place are counted in the text before it, while the line that an error
is shown with is picked from all lines of the text.  The two agree: a place fits the lines of the
text (`SourceLocation.fits_of`), wherever the offset lies.  For this the text before a place is cut
into the lines above it, each with its line feed, and the start of its own line (`IsCut`).

So a report with a source always has an excerpt with marks that start at the column of the range and
do not run past the line (`ScriptError.format_points_into_source`).  But the margin left of the marks
has room for three digits, and from line 1000 on that of the line above is wider, so the marks stand
too far to the left (`Tall.mark_left_of_column`).
-/

namespace SceneLang

/-! ### Lines -/

section Lines

variable {line left : List Char} {above : List (List Char)}

theorem splitLines_ne_nil (text : List Char) : splitLines text ≠ [] := by
  cases text with
  | nil => exact List.cons_ne_nil _ _
  | cons c rest =>
    unfold splitLines
    split
    · exact List.cons_ne_nil _ _
    · split <;> exact List.cons_ne_nil _ _

/-- Characters in front of a text stand in its first line, if there is no line feed among them. -/
theorem splitLines_append_of_not_mem {text head : List Char} {tail : List (List Char)}
    (hleft : '\n' ∉ left) (htext : splitLines text = head :: tail) :
    splitLines (left ++ text) = (left ++ head) :: tail := by
  induction left with
  | nil => exact htext
  | cons c left ih =>
    have hc : c ≠ '\n' := fun h => hleft (h ▸ List.mem_cons_self)
    have hrest := ih fun h => hleft (List.mem_cons_of_mem c h)
    rw [List.cons_append, splitLines, if_neg hc, hrest]
    rfl

/-- Whole lines in front of a text stand by themselves. -/
theorem splitLines_lines_append (habove : ∀ line ∈ above, '\n' ∉ line) (text : List Char) :
    splitLines (above.flatMap (· ++ ['\n']) ++ text) = above ++ splitLines text := by
  induction above with
  | nil => rfl
  | cons line above ih =>
    obtain ⟨hline, hrest⟩ := List.forall_mem_cons.mp habove
    have hfeed : splitLines ('\n' :: (above.flatMap (· ++ ['\n']) ++ text))
        = [] :: (above ++ splitLines text) := by
      rw [splitLines, if_pos rfl, ih hrest]
    have hsplit := splitLines_append_of_not_mem hline hfeed
    rw [List.append_nil] at hsplit
    simpa using hsplit

/-- **The lines of a text** have no line feeds, and give the text when they are put together with
line feeds between them. -/
theorem intercalate_splitLines (text : List Char) :
    ['\n'].intercalate (splitLines text) = text ∧ ∀ line ∈ splitLines text, '\n' ∉ line := by
  induction text with
  | nil => exact ⟨rfl, by simp [splitLines]⟩
  | cons c text ih =>
    obtain ⟨head, tail, hsplit⟩ := List.exists_cons_of_ne_nil (splitLines_ne_nil text)
    rw [hsplit] at ih
    by_cases hc : c = '\n'
    · rw [splitLines, if_pos hc, hsplit, hc]
      refine ⟨?_, List.forall_mem_cons.mpr ⟨List.not_mem_nil, ih.2⟩⟩
      rw [← ih.1]
      simp [List.intercalate]
    · rw [splitLines, if_neg hc, hsplit]
      obtain ⟨hhead, htail⟩ := List.forall_mem_cons.mp ih.2
      refine ⟨?_, List.forall_mem_cons.mpr ⟨?_, htail⟩⟩
      · rw [← ih.1]
        cases tail <;> simp [List.intercalate]
      · simpa [Ne.symm hc] using hhead

end Lines

/-! ### Cutting a text -/

/-- **A text cut after its last line feed**: the lines above, and what is left of the last one. -/
structure IsCut (text : List Char) (above : List (List Char)) (left : List Char) : Prop where
  text : text = above.flatMap (· ++ ['\n']) ++ left
  above : ∀ line ∈ above, '\n' ∉ line
  left : '\n' ∉ left

theorem exists_isCut (text : List Char) : ∃ above left, IsCut text above left := by
  induction text with
  | nil => exact ⟨[], [], rfl, nofun, List.not_mem_nil⟩
  | cons c text ih =>
    obtain ⟨above, left, rfl, habove, hleft⟩ := ih
    -- a line feed in front is an empty line above, anything else belongs to the first line
    by_cases hc : c = '\n'
    · refine ⟨[] :: above, left, by simp [hc], ?_, hleft⟩
      exact List.forall_mem_cons.mpr ⟨List.not_mem_nil, habove⟩
    · cases above with
      | nil =>
        refine ⟨[], c :: left, rfl, nofun, ?_⟩
        simpa [Ne.symm hc] using hleft
      | cons line above =>
        obtain ⟨hline, hrest⟩ := List.forall_mem_cons.mp habove
        refine ⟨(c :: line) :: above, left, by simp, ?_, hleft⟩
        refine List.forall_mem_cons.mpr ⟨?_, hrest⟩
        simpa [Ne.symm hc] using hline

namespace IsCut

variable {text left : List Char} {above : List (List Char)}

/-- There are as many line feeds as lines above. -/
theorem count (h : IsCut text above left) : text.count '\n' = above.length := by
  obtain ⟨rfl, habove, hleft⟩ := h
  rw [List.count_append, List.count_eq_zero.mpr hleft, Nat.add_zero]
  induction above with
  | nil => rfl
  | cons line above ih =>
    obtain ⟨hline, hrest⟩ := List.forall_mem_cons.mp habove
    rw [List.flatMap_cons, List.count_append, List.count_append, List.count_eq_zero.mpr hline,
      ih hrest, List.count_singleton_self, List.length_cons]
    omega

theorem length (h : IsCut text above left) :
    text.length = (above.map (·.length + 1)).sum + left.length := by
  rw [h.text, List.length_append, List.length_flatMap]
  simp only [List.length_append, List.length_singleton]

/-- What is left is what stands after the last line feed. -/
theorem takeWhile_reverse (h : IsCut text above left) :
    text.reverse.takeWhile (· ≠ '\n') = left.reverse := by
  obtain ⟨rfl, habove, hleft⟩ := h
  have hfree : ∀ c ∈ left.reverse, decide (c ≠ '\n') = true := by
    intro c hc
    refine decide_eq_true fun h => hleft ?_
    rw [← h]
    exact List.mem_reverse.mp hc
  rw [List.reverse_append, List.takeWhile_append_of_pos hfree]
  -- the lines above end with a line feed, so nothing more is taken
  have hstop : (above.flatMap (· ++ ['\n'])).reverse.takeWhile (· ≠ '\n') = [] := by
    rcases List.eq_nil_or_concat above with rfl | ⟨lines, line, rfl⟩
    · rfl
    · simp
  rw [hstop, List.append_nil]

/-- **The line of what is left** comes after the lines above, and goes on with the text behind. -/
theorem exists_splitLines_append (h : IsCut text above left) (rest : List Char) :
    ∃ right below, splitLines (text ++ rest) = above ++ (left ++ right) :: below := by
  obtain ⟨right, below, hrest⟩ := List.exists_cons_of_ne_nil (splitLines_ne_nil rest)
  refine ⟨right, below, ?_⟩
  rw [h.text, List.append_assoc, splitLines_lines_append h.above,
    splitLines_append_of_not_mem h.left hrest]

end IsCut

/-! ### Places -/

namespace SourceLocation

/-- **A place that fits the lines of a text**, where `text` is its own line: the column is one of
the line or the one after it, and the offset is what all lines above take up with their line feeds,
and the columns before. -/
structure Fits (l : SourceLocation) (lines : List (List Char)) (text : List Char) : Prop where
  one_le_line : 1 ≤ l.line
  line_le : l.line ≤ lines.length
  line : lines[l.line - 1]? = some text
  one_le_column : 1 ≤ l.column
  column_le : l.column ≤ text.length + 1
  offset : l.offset = ((lines.take (l.line - 1)).map (·.length + 1)).sum + (l.column - 1)

variable (source : String) (offset : Int) (filename : Option String)

/-- Where the text before a place is cut, its line and column are counted. -/
theorem of_of_isCut {above : List (List Char)} {left : List Char}
    (hcut : IsCut (source.toList.take (clamp source.toList.length offset)) above left) :
    of source offset filename = ⟨above.length + 1, left.length + 1,
      (above.map (·.length + 1)).sum + left.length, filename⟩ := by
  have hle : clamp source.toList.length offset ≤ source.toList.length := Nat.min_le_right _ _
  have hlength := hcut.length
  rw [List.length_take, Nat.min_eq_left hle] at hlength
  unfold of
  simp only [hcut.count, hcut.takeWhile_reverse, List.length_reverse]
  rw [hlength]

/-- **The place of an offset fits the lines of the text**, wherever the offset lies. -/
theorem fits_of : ∃ text, (of source offset filename).Fits (splitLines source.toList) text := by
  -- the cut gives the line and the column, and what comes behind only completes the line
  obtain ⟨above, left, hcut⟩ :=
    exists_isCut (source.toList.take (clamp source.toList.length offset))
  obtain ⟨right, below, hsplit⟩ := hcut.exists_splitLines_append
    (source.toList.drop (clamp source.toList.length offset))
  rw [List.take_append_drop] at hsplit
  rw [of_of_isCut source offset filename hcut, hsplit]
  refine ⟨left ++ right, ?_, ?_, ?_, ?_, ?_, ?_⟩
  · exact Nat.le_add_left 1 above.length
  · show above.length + 1 ≤ _
    rw [List.length_append, List.length_cons]
    omega
  · rw [Nat.add_sub_cancel, List.getElem?_append_right (Nat.le_refl _), Nat.sub_self]
    rfl
  · exact Nat.le_add_left 1 left.length
  · show left.length + 1 ≤ _
    rw [List.length_append]
    omega
  · rw [Nat.add_sub_cancel, Nat.add_sub_cancel, List.take_left]

/-- The offset of a place is the given one, moved into the text. -/
theorem offset_of : ((of source offset filename).offset : Int)
    = max 0 (min offset source.length) := by
  show ((min offset.toNat source.toList.length : Nat) : Int) = _
  rw [String.length_toList]
  omega

variable {source offset filename}

/-- **The line and the column determine the offset.** -/
theorem Fits.offset_eq {l l' : SourceLocation} {lines : List (List Char)} {text text' : List Char}
    (h : l.Fits lines text) (h' : l'.Fits lines text') (hline : l.line = l'.line)
    (hcolumn : l.column = l'.column) : l.offset = l'.offset := by
  rw [h.offset, h'.offset, hline, hcolumn]

/-- A place that fits the lines of a source has a line of it. -/
theorem Fits.sourceLine? {l : SourceLocation} {text : List Char}
    (h : l.Fits (splitLines source.toList) text) :
    SceneLang.sourceLine? source l.line = some (String.ofList text) := by
  have hline : (1 : Int) ≤ l.line := by exact_mod_cast h.one_le_line
  have hindex : ((l.line : Int) - 1).toNat = l.line - 1 := by omega
  rw [SceneLang.sourceLine?, if_pos hline, hindex, h.line]
  rfl

end SourceLocation

/-! ### Excerpts -/

namespace ScriptError

/-- What stands left of the line that is shown. -/
def margin (l : SourceLocation) : String := inColumn l.line ++ " | "

/-- What stands left of the marks. -/
def marksMargin : String := "    | "

/-- Numbers of lines are given as much room as they take, but at least that of three digits. -/
theorem length_margin (l : SourceLocation) :
    (margin l).length = max 3 (toString l.line).length + 3 := by
  have hbar : " | ".length = 3 := by decide
  unfold margin inColumn
  simp only [String.length_append, String.length_ofList, List.length_replicate, hbar]
  omega

/-- **The marks stand below the line up to line 999.** -/
theorem length_margin_eq_iff (l : SourceLocation) :
    (margin l).length = marksMargin.length ↔ l.line < 1000 := by
  have hmarks : marksMargin.length = 6 := by decide
  have hdigits : (toString l.line).length ≤ 3 ↔ l.line < 10 ^ 3 :=
    Nat.length_repr_le_iff (by decide)
  rw [length_margin, hmarks]
  omega

theorem excerpt_of_sourceLine? {source line : String} {first last : SourceLocation}
    (h : sourceLine? source first.line = some line) :
    excerpt source first last = ["  |", margin first ++ line,
      marksMargin ++ String.ofList (List.replicate (first.column - 1) ' ')
        ++ String.ofList (List.replicate (max 1 ((if first.line = last.line then last.column
          else line.length + 1) - first.column)) '^')] := by
  unfold excerpt
  rw [h]
  rfl

/-- **The shape of an excerpt**: the line of the first place, and below it marks that start at its
column and end with the line at the latest, but for a single mark behind the line. -/
theorem exists_excerpt {source : String} {first last : SourceLocation} {text text' : List Char}
    (hfirst : first.Fits (splitLines source.toList) text)
    (hlast : last.Fits (splitLines source.toList) text') :
    ∃ marks, 1 ≤ marks ∧
      (first.column - 1 + marks ≤ text.length ∨ first.column = text.length + 1 ∧ marks = 1) ∧
      excerpt source first last = ["  |", margin first ++ String.ofList text,
        marksMargin ++ String.ofList (List.replicate (first.column - 1) ' ')
          ++ String.ofList (List.replicate marks '^')] := by
  obtain ⟨stop, hstop⟩ : ∃ stop, stop =
    if first.line = last.line then last.column else text.length + 1 := ⟨_, rfl⟩
  have hle : stop ≤ text.length + 1 := by
    split at hstop
    · rename_i hsame
      -- both places are in one line
      have hline := hfirst.line
      rw [hsame, hlast.line] at hline
      rw [hstop, ← Option.some.inj hline]
      exact hlast.column_le
    · exact Nat.le_of_eq hstop
  have hone := hfirst.one_le_column
  have hcolumn := hfirst.column_le
  refine ⟨max 1 (stop - first.column), Nat.le_max_left _ _, by omega, ?_⟩
  rw [excerpt_of_sourceLine? hfirst.sourceLine?, String.length_ofList, ← hstop]

/-- A report consists of a headline, the excerpt and the hint, if there is one. -/
theorem exists_format_eq {e : ScriptError} {r : SourceRange} (source : String)
    (filename : Option String) (hr : e.range = some r) :
    ∃ hint, (hint = [] ∨ ∃ h, e.hint = some h ∧ hint = ["    = hint: " ++ h]) ∧
      e.format (some source) filename = "\n".intercalate
        (((SourceLocation.of source r.start filename).text ++ ": error: " ++ e.message) ::
          excerpt source (.of source r.start filename) (.of source r.stop filename) ++ hint) := by
  unfold format
  rw [hr]
  cases hhint : e.hint with
  | none => exact ⟨[], .inl rfl, rfl⟩
  | some h =>
    by_cases hempty : h = ""
    · exact ⟨[], .inl rfl, by simp [hempty]⟩
    · exact ⟨_, .inr ⟨h, rfl, rfl⟩, by simp [hempty]⟩

/-- **Reports point at the right text.**  The lines of a source are what stands between its line
feeds, the place of every offset fits them, and its line and column determine the offset as far as
it lies in the source.  So every error that has a range is reported with the line where the range
starts, and below it at least one mark; the marks start at the column of the range and end with the
line, but for a single one behind it.  They stand exactly below that column up to line 999. -/
theorem format_points_into_source (source : String) (filename : Option String) :
    (['\n'].intercalate (splitLines source.toList) = source.toList ∧
      ∀ line ∈ splitLines source.toList, '\n' ∉ line) ∧
    (∀ offset, ((SourceLocation.of source offset filename).offset : Int)
        = max 0 (min offset source.length) ∧
      ∃ text, (SourceLocation.of source offset filename).Fits (splitLines source.toList) text) ∧
    (∀ offset offset', (SourceLocation.of source offset filename).line
        = (SourceLocation.of source offset' filename).line →
      (SourceLocation.of source offset filename).column
        = (SourceLocation.of source offset' filename).column →
      (SourceLocation.of source offset filename).offset
        = (SourceLocation.of source offset' filename).offset) ∧
    ∀ (e : ScriptError) (r : SourceRange), e.range = some r →
      let first := SourceLocation.of source r.start filename
      ∃ text marks hint, first.Fits (splitLines source.toList) text ∧ 1 ≤ marks ∧
        (first.column - 1 + marks ≤ text.length ∨ first.column = text.length + 1 ∧ marks = 1) ∧
        (hint = [] ∨ ∃ h, e.hint = some h ∧ hint = ["    = hint: " ++ h]) ∧
        e.format (some source) filename = "\n".intercalate ([
          first.text ++ ": error: " ++ e.message,
          "  |",
          margin first ++ String.ofList text,
          marksMargin ++ String.ofList (List.replicate (first.column - 1) ' ')
            ++ String.ofList (List.replicate marks '^')] ++ hint) ∧
        ((margin first).length = marksMargin.length ↔ first.line < 1000) := by
  refine ⟨intercalate_splitLines _, fun offset => ?_, fun offset offset' hline hcolumn => ?_,
    fun e r hr => ?_⟩
  · exact ⟨SourceLocation.offset_of source offset filename,
      SourceLocation.fits_of source offset filename⟩
  · obtain ⟨text, hfits⟩ := SourceLocation.fits_of source offset filename
    obtain ⟨text', hfits'⟩ := SourceLocation.fits_of source offset' filename
    exact hfits.offset_eq hfits' hline hcolumn
  · obtain ⟨text, hfirst⟩ := SourceLocation.fits_of source r.start filename
    obtain ⟨text', hlast⟩ := SourceLocation.fits_of source r.stop filename
    obtain ⟨marks, hone, hend, hexcerpt⟩ := exists_excerpt hfirst hlast
    obtain ⟨hint, hhint, hformat⟩ := exists_format_eq source filename hr
    rw [hexcerpt] at hformat
    exact ⟨text, marks, hint, hfirst, hone, hend, hhint, hformat, length_margin_eq_iff _⟩

end ScriptError

/-! ### A text of a thousand lines -/

namespace Tall

/-- The empty lines above the last one. -/
def above : List (List Char) := List.replicate 999 []

/-- A text with a single character in line 1000. -/
def source : String := String.ofList (above.flatMap (· ++ ['\n']) ++ ['x'])

/-- An error at that character. -/
def error : ScriptError := .lexer "Unexpected character" ⟨999, 1000⟩ none

theorem length_lines : (above.map (·.length + 1)).sum = 999 := by
  rw [above, List.map_replicate, List.sum_replicate_nat]
  rfl

/-- The lines above are cut off before the character and behind it. -/
theorem isCut {left : List Char} (hleft : '\n' ∉ left) :
    IsCut (above.flatMap (· ++ ['\n']) ++ left) above left := by
  refine ⟨rfl, fun line hline => ?_, hleft⟩
  rw [List.eq_of_mem_replicate hline]
  exact List.not_mem_nil

/-- The places right before the character and right behind it. -/
theorem of_source (length : Nat) (hle : length ≤ 1) :
    SourceLocation.of source (999 + length : Nat) none
      = ⟨1000, length + 1, 999 + length, none⟩ := by
  have hx : '\n' ∉ ['x'].take length := fun h => by simpa using List.mem_of_mem_take h
  have hsource : source.toList = above.flatMap (· ++ ['\n']) ++ ['x'] := String.toList_ofList
  have hlines : (above.flatMap (· ++ ['\n'])).length = 999 := by
    rw [List.length_flatMap]
    simpa using length_lines
  have hcut : IsCut (source.toList.take (SourceLocation.clamp source.toList.length
      (999 + length : Nat))) above (['x'].take length) := by
    have hclamp : SourceLocation.clamp source.toList.length (999 + length : Nat)
        = (above.flatMap (· ++ ['\n'])).length + length := by
      rw [hsource, SourceLocation.clamp, List.length_append, hlines]
      show min (999 + length) (999 + 1) = 999 + length
      omega
    rw [hclamp, hsource, List.take_length_add_append]
    exact isCut hx
  rw [SourceLocation.of_of_isCut _ _ _ hcut, length_lines, List.length_take, List.length_singleton,
    Nat.min_eq_left hle, above, List.length_replicate]

/-- **In line 1000 the mark stands left of its column.**  The character is in column one, which is
shown behind seven others, and the mark comes behind six. -/
theorem mark_left_of_column :
    error.format (some source) none = "\n".intercalate
      ["1000:1: error: Unexpected character", "  |", "1000 | x", "    | ^"] ∧
    SourceLocation.of source 999 none = ⟨1000, 1, 999, none⟩ ∧
    "1000 | x".toList[7]? = some 'x' ∧ "    | ^".toList[6]? = some '^' ∧
    "    | ^".length = 7 := by
  have hfirst : SourceLocation.of source 999 none = ⟨1000, 1, 999, none⟩ := of_source 0 (by decide)
  have hlast : SourceLocation.of source 1000 none = ⟨1000, 2, 1000, none⟩ := of_source 1 (by decide)
  have hline : sourceLine? source (⟨1000, 1, 999, none⟩ : SourceLocation).line = some "x" := by
    have hsplit : splitLines source.toList = above ++ [['x']] := by
      rw [source, String.toList_ofList]
      exact splitLines_lines_append (isCut List.not_mem_nil).above ['x']
    have hindex : (above ++ [['x']])[999]? = some ['x'] := by
      have hlength : above.length = 999 := List.length_replicate
      rw [List.getElem?_append_right (Nat.le_of_eq hlength), hlength]
      rfl
    rw [sourceLine?, hsplit]
    show (if (1 : Int) ≤ (1000 : Nat) then ((above ++ [['x']])[999]?).map String.ofList
      else none) = _
    rw [hindex]
    rfl
  have hhead : (⟨1000, 1, 999, none⟩ : SourceLocation).text ++ ": error: " ++ error.message
      = "1000:1: error: Unexpected character" := by decide
  have hexcerpt : ScriptError.excerpt source ⟨1000, 1, 999, none⟩ ⟨1000, 2, 1000, none⟩
      = ["  |", "1000 | x", "    | ^"] := by
    rw [ScriptError.excerpt_of_sourceLine? hline]
    decide
  have hrange : error.range = some ⟨999, 1000⟩ := rfl
  obtain ⟨hint, hhint | ⟨h, hnone, -⟩, hformat⟩ := ScriptError.exists_format_eq source none hrange
  · rw [hfirst, hlast, hhead, hexcerpt, hhint] at hformat
    exact ⟨hformat, hfirst, by decide, by decide, by decide⟩
  · cases hnone

end Tall

end SceneLang
