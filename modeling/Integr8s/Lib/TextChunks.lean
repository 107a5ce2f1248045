/-
Module: Integr8s.Lib.TextChunks
Purpose: Text that arrives in chunks, cut anywhere, and is read as paragraphs:
  the line ends of each chunk are made alike, and the rest of the last
  paragraph waits for the next chunk.  A line end that is cut in two may end a
  paragraph early, but no line is lost, doubled or put beside a line of another
  paragraph.
Trusted boundary: none
Main exports: unifyLineEnds, splitAfter, splitText, readParagraphs,
  paragraphText, LineEnd, chosen, chosen_readParagraphs
-/
import Mathlib.Data.List.ReduceOption
import Mathlib.Data.List.Infix

universe u

namespace TextChunks

/-- `replace(/\r\n?/g, '\n')`, from a place that follows a carriage return or
does not. -/
def unifyLineEnds (afterReturn : Bool) : List Char → List Char
  | [] => []
  | char :: rest =>
      if char = '\r' then '\n' :: unifyLineEnds true rest
      else if char = '\n' ∧ afterReturn = true then unifyLineEnds false rest
      else char :: unifyLineEnds false rest

section Split

variable {α : Type u} [DecidableEq α]

/-- The pieces of a text that a separator ends, the first of which has begun
already, and what follows the last of them. -/
def splitAfter (separator current : List α) :
    List α → List (List α) × List α
  | [] => ([], current)
  | char :: rest =>
      let longer := current ++ [char]
      if separator.isSuffixOf longer then
        let later := splitAfter separator [] rest
        (longer.take (longer.length - separator.length) :: later.1, later.2)
      else splitAfter separator longer rest

/-- `split(separator)`. -/
def splitText (separator text : List α) : List (List α) :=
  let pieces := splitAfter separator [] text
  pieces.1 ++ [pieces.2]

variable {separator current text : List α}

/-- A split goes on where it stopped. -/
theorem splitAfter_append (first second : List α) :
    splitAfter separator current (first ++ second) =
      ((splitAfter separator current first).1 ++
          (splitAfter separator (splitAfter separator current first).2
            second).1,
        (splitAfter separator (splitAfter separator current first).2
          second).2) := by
  induction first generalizing current with
  | nil => rfl
  | cons char first inductionHypothesis =>
      simp only [List.cons_append, splitAfter]
      split
      · rw [inductionHypothesis]
        rfl
      · exact inductionHypothesis

/-- A text that no separator ends a piece of. -/
def Settled (separator text : List α) : Prop :=
  splitAfter separator [] text = ([], text)

private theorem settled_nil : Settled separator ([] : List α) := rfl

/-- What follows the last piece is settled. -/
theorem Settled.splitAfter (settled : Settled separator current) :
    Settled separator (splitAfter separator current text).2 := by
  induction text generalizing current with
  | nil => exact settled
  | cons char text inductionHypothesis =>
      simp only [TextChunks.splitAfter]
      split
      · exact inductionHypothesis settled_nil
      · rename_i goesOn
        apply inductionHypothesis
        unfold Settled
        rw [splitAfter_append, settled]
        simp [TextChunks.splitAfter, goesOn]

/-- What is settled may be split again with what follows. -/
theorem Settled.again (settled : Settled separator current) :
    TextChunks.splitAfter separator [] (current ++ text) =
      TextChunks.splitAfter separator current text := by
  rw [splitAfter_append, settled]
  rfl

end Split

/-- Two line ends. -/
def blankLine : List Char := ['\n', '\n']

/-- What was read: the paragraphs that have ended, and the rest. -/
structure Page where
  paragraphs : List (List Char) := []
  current : List Char := []

/-- Read one more chunk. -/
def Page.readChunk (page : Page) (chunk : List Char) : Page :=
  let read := splitAfter blankLine []
    (unifyLineEnds false (page.current ++ chunk))
  { paragraphs := page.paragraphs ++ read.1, current := read.2 }

/-- Read a text chunk by chunk. -/
def readParagraphs (chunks : List (List Char)) : Page :=
  chunks.foldl Page.readChunk {}

/-! ### A character at a time -/

/-- One more character, whose line ends are alike. -/
def Page.put (page : Page) (char : Char) : Page :=
  let longer := page.current ++ [char]
  if blankLine.isSuffixOf longer then
    { paragraphs := page.paragraphs ++ [longer.take (longer.length - 2)]
      current := [] }
  else { page with current := longer }

/-- A page, and whether a carriage return was just read in this chunk. -/
structure Reading extends Page where
  afterReturn : Bool := false

/-- A chunk ends, or a character follows. -/
def Reading.step (reading : Reading) : Option Char → Reading
  | none => { reading with afterReturn := false }
  | some char =>
      if char = '\r' then
        { toPage := reading.put '\n', afterReturn := true }
      else if char = '\n' ∧ reading.afterReturn = true then
        { reading with afterReturn := false }
      else { toPage := reading.put char, afterReturn := false }

/-- The characters of a text and the ends of its chunks. -/
def Reading.run (reading : Reading) (marks : List (Option Char)) : Reading :=
  marks.foldl Reading.step reading

@[simp] theorem Reading.run_nil (reading : Reading) :
    reading.run [] = reading := rfl

@[simp] theorem Reading.run_cons (reading : Reading) (mark : Option Char)
    (marks : List (Option Char)) :
    reading.run (mark :: marks) = (reading.step mark).run marks := rfl

theorem Reading.run_append (reading : Reading)
    (first second : List (Option Char)) :
    reading.run (first ++ second) = (reading.run first).run second :=
  List.foldl_append ..

/-- The marks of a chunked text. -/
def marksOf (chunks : List (List Char)) : List (Option Char) :=
  chunks.flatMap fun chunk => chunk.map some ++ [none]

@[simp] theorem marksOf_cons (chunk : List Char) (chunks : List (List Char)) :
    marksOf (chunk :: chunks) = chunk.map some ++ [none] ++ marksOf chunks :=
  rfl

private theorem reduceOption_marksOf (chunks : List (List Char)) :
    (marksOf chunks).reduceOption = chunks.flatten := by
  induction chunks with
  | nil => rfl
  | cons chunk chunks inductionHypothesis =>
      have chars : (chunk.map some).reduceOption = chunk := by
        simp [List.reduceOption]
      rw [marksOf_cons, List.reduceOption_append, List.reduceOption_append,
        inductionHypothesis, chars]
      simp [List.reduceOption]

/-- A page that is read a character at a time splits the characters. -/
theorem Page.foldl_put (page : Page) (chars : List Char) :
    chars.foldl Page.put page =
      { paragraphs := page.paragraphs ++
          (splitAfter blankLine page.current chars).1
        current := (splitAfter blankLine page.current chars).2 } := by
  induction chars generalizing page with
  | nil => simp [splitAfter]
  | cons char chars inductionHypothesis =>
      simp only [List.foldl_cons, inductionHypothesis, splitAfter, Page.put]
      split <;> simp [blankLine]

/-- The characters of a chunk are put with their line ends made alike. -/
theorem Reading.run_chars (reading : Reading) (chunk : List Char) :
    (reading.run (chunk.map some)).toPage =
      (unifyLineEnds reading.afterReturn chunk).foldl Page.put
        reading.toPage := by
  induction chunk generalizing reading with
  | nil => rfl
  | cons char chunk inductionHypothesis =>
      simp only [List.map_cons, run_cons, inductionHypothesis, unifyLineEnds,
        step]
      split
      · rfl
      · split <;> rfl

/-- A page that may be read again with what follows. -/
structure Page.Even (page : Page) : Prop where
  settled : Settled blankLine page.current
  noReturn : '\r' ∉ page.current

private theorem unifyLineEnds_append {text : List Char} (noReturn : '\r' ∉ text)
    (rest : List Char) :
    unifyLineEnds false (text ++ rest) = text ++ unifyLineEnds false rest := by
  induction text with
  | nil => rfl
  | cons char text inductionHypothesis =>
      rw [List.mem_cons, not_or] at noReturn
      simp [unifyLineEnds, Ne.symm noReturn.1,
        inductionHypothesis noReturn.2]

private theorem not_mem_unifyLineEnds (afterReturn : Bool) (text : List Char) :
    '\r' ∉ unifyLineEnds afterReturn text := by
  induction text generalizing afterReturn with
  | nil => simp [unifyLineEnds]
  | cons char text inductionHypothesis =>
      simp only [unifyLineEnds]
      split
      · simp [inductionHypothesis]
      · rename_i other
        split
        · exact inductionHypothesis false
        · simp [inductionHypothesis, Ne.symm other]

/-- What a split leaves has only characters of its text. -/
theorem mem_of_mem_splitAfter {α : Type u} [DecidableEq α]
    {separator current text : List α} {char : α}
    (member : char ∈ (splitAfter separator current text).2) :
    char ∈ current ∨ char ∈ text := by
  induction text generalizing current with
  | nil => exact .inl member
  | cons first text inductionHypothesis =>
      simp only [splitAfter] at member
      split at member
      · rcases inductionHypothesis member with before | later
        · cases before
        · exact .inr (List.mem_cons_of_mem _ later)
      · rcases inductionHypothesis member with here | later
        · rcases List.mem_append.mp here with before | new
          · exact .inl before
          · exact .inr (List.mem_singleton.mp new ▸ List.mem_cons_self)
        · exact .inr (List.mem_cons_of_mem _ later)

/-- A chunk that is read at once is read a character at a time. -/
theorem Page.Even.readChunk {page : Page} (even : page.Even)
    (chunk : List Char) :
    page.readChunk chunk =
        (unifyLineEnds false chunk).foldl Page.put page ∧
      (page.readChunk chunk).Even := by
  have read : page.readChunk chunk =
      (unifyLineEnds false chunk).foldl Page.put page := by
    rw [Page.foldl_put, Page.readChunk, unifyLineEnds_append even.noReturn,
      even.settled.again]
  refine ⟨read, ?_⟩
  rw [read, Page.foldl_put]
  refine ⟨even.settled.splitAfter, fun member => ?_⟩
  rcases mem_of_mem_splitAfter member with before | new
  · exact even.noReturn before
  · exact not_mem_unifyLineEnds _ _ new

/-- A text that is read chunk by chunk is read a character at a time. -/
theorem foldl_readChunk {page : Page} (even : page.Even)
    (chunks : List (List Char)) :
    chunks.foldl Page.readChunk page =
      (Reading.run { toPage := page } (marksOf chunks)).toPage := by
  induction chunks generalizing page with
  | nil => rfl
  | cons chunk chunks inductionHypothesis =>
      obtain ⟨read, evenThen⟩ := even.readChunk chunk
      have first : Reading.run { toPage := page } (chunk.map some ++ [none]) =
          { toPage := page.readChunk chunk } := by
        rw [Reading.run_append, read,
          ← Reading.run_chars { toPage := page } chunk]
        rfl
      rw [List.foldl_cons, inductionHypothesis evenThen, marksOf_cons,
        Reading.run_append, first]

private theorem readParagraphs_eq (chunks : List (List Char)) :
    readParagraphs chunks = (Reading.run {} (marksOf chunks)).toPage :=
  foldl_readChunk ⟨settled_nil, List.not_mem_nil⟩ chunks

/-- Paragraphs that have ended stay. -/
theorem Page.paragraphs_put (page : Page) (char : Char) :
    page.paragraphs <+: (page.put char).paragraphs := by
  simp only [Page.put]
  split
  · exact List.prefix_append ..
  · exact List.prefix_rfl

theorem Reading.paragraphs_run (reading : Reading)
    (marks : List (Option Char)) :
    reading.paragraphs <+: (reading.run marks).paragraphs := by
  induction marks generalizing reading with
  | nil => exact List.prefix_rfl
  | cons mark marks inductionHypothesis =>
      refine List.IsPrefix.trans ?_ (inductionHypothesis (reading.step mark))
      cases mark with
      | none => exact List.prefix_rfl
      | some char =>
          simp only [step]
          split
          · exact reading.paragraphs_put '\n'
          · split
            · exact List.prefix_rfl
            · exact reading.paragraphs_put char

/-! ### The lines of the paragraphs -/

/-- The lines of a text that are chosen. -/
def chosen (chooses : List Char → Bool) (text : List Char) :
    List (List Char) :=
  (splitText ['\n'] text).filter chooses

section Chosen

variable {chooses : List Char → Bool}

/-- A text without a line end goes on with its line. -/
theorem splitAfter_line {line : List Char} (plain : '\n' ∉ line)
    (current : List Char) :
    splitAfter ['\n'] current line = ([], current ++ line) := by
  induction line generalizing current with
  | nil => simp [splitAfter]
  | cons char line inductionHypothesis =>
      rw [List.mem_cons, not_or] at plain
      have goesOn : ['\n'].isSuffixOf (current ++ [char]) = false := by
        rw [Bool.eq_false_iff, Ne, List.isSuffixOf_iff_suffix,
          List.singleton_suffix_iff_getLast?_eq_some]
        simpa using Ne.symm plain.1
      simp [splitAfter, goesOn, inductionHypothesis plain.2]

/-- A line end ends the line that has begun. -/
theorem splitAfter_newline (current rest : List Char) :
    splitAfter ['\n'] current ('\n' :: rest) =
      (current :: (splitAfter ['\n'] [] rest).1,
        (splitAfter ['\n'] [] rest).2) := by
  have ends : ['\n'].isSuffixOf (current ++ ['\n']) = true := by
    simp
  simp [splitAfter, ends]

private theorem chosen_line {line : List Char} (plain : '\n' ∉ line) :
    chosen chooses line = [line].filter chooses := by
  simp [chosen, splitText, splitAfter_line plain]

/-- Nothing is chosen of an empty text. -/
theorem chosen_nil (empty : chooses [] = false) :
    chosen chooses [] = [] := by
  rw [chosen_line List.not_mem_nil]
  simp [empty]

/-- What is chosen of two texts with a line end between them. -/
theorem chosen_append_newline (text rest : List Char) :
    chosen chooses (text ++ '\n' :: rest) =
      chosen chooses text ++ chosen chooses rest := by
  rw [chosen, chosen, chosen, ← List.filter_append]
  simp [splitText, splitAfter_append, splitAfter_newline]

/-- A line end adds nothing that is chosen. -/
theorem chosen_newline (empty : chooses [] = false) (text : List Char) :
    chosen chooses (text ++ ['\n']) = chosen chooses text := by
  rw [chosen_append_newline, chosen_nil empty, List.append_nil]

/-- Another character than a line end. -/
theorem Page.put_char {char : Char} (plain : char ≠ '\n') (page : Page) :
    page.put char =
      { page with current := page.current ++ [char] } := by
  have goesOn : ¬blankLine.isSuffixOf (page.current ++ [char]) = true := by
    rw [List.isSuffixOf_iff_suffix]
    rintro ⟨before, same⟩
    have lasts := congrArg List.getLast? same
    simp [blankLine] at lasts
    exact plain lasts.symm
  simp only [put, if_neg goesOn]

/-- A line end ends the paragraph, if another one was just before it. -/
theorem Page.put_newline (page : Page) :
    (∃ text, page.current = text ++ ['\n'] ∧
      page.put '\n' =
        { paragraphs := page.paragraphs ++ [text], current := [] }) ∨
    (∀ text, page.current ≠ text ++ ['\n']) ∧
      page.put '\n' =
        { page with current := page.current ++ ['\n'] } := by
  by_cases ends : blankLine.isSuffixOf (page.current ++ ['\n']) = true
  · left
    obtain ⟨text, same⟩ := List.isSuffixOf_iff_suffix.mp ends
    have before : page.current = text ++ ['\n'] := by
      rw [blankLine, List.append_cons] at same
      exact (List.append_cancel_right same).symm
    refine ⟨text, before, ?_⟩
    simp only [put, if_pos ends]
    simp [before]
  · refine .inr ⟨fun text before => ends ?_, ?_⟩
    · rw [List.isSuffixOf_iff_suffix, before]
      exact ⟨text, by simp [blankLine]⟩
    · simp only [put, if_neg ends]

variable (chooses) in
/-- The chosen lines of a page, also those of the rest. -/
def Page.chosen (page : Page) : List (List Char) :=
  page.paragraphs.flatMap (TextChunks.chosen chooses) ++
    TextChunks.chosen chooses page.current

/-- A line begins here. -/
def Page.AtLine (page : Page) : Prop :=
  page.current = [] ∨ ∃ text, page.current = text ++ ['\n']

/-- A paragraph begins here. -/
def Page.Clear (page : Page) : Prop :=
  page.current = [] ∨ page.current = ['\n']

theorem Page.Clear.atLine {page : Page} (clear : page.Clear) : page.AtLine := by
  rcases clear with empty | ended
  · exact .inl empty
  · exact .inr ⟨[], ended⟩

/-- Nothing is chosen of a rest in which a paragraph begins. -/
theorem Page.Clear.chosen_current {page : Page} (clear : page.Clear)
    (empty : chooses [] = false) :
    TextChunks.chosen chooses page.current = [] := by
  rcases clear with same | same
  · rw [same, chosen_nil empty]
  · rw [same, ← List.nil_append ['\n'], chosen_newline empty,
      chosen_nil empty]

/-- A line end keeps what is chosen, and a line begins. -/
theorem Page.chosen_put_newline (empty : chooses [] = false) (page : Page) :
    (page.put '\n').chosen chooses = page.chosen chooses ∧
      (page.put '\n').AtLine := by
  rcases page.put_newline with ⟨text, before, after⟩ | ⟨-, after⟩
  · rw [after]
    refine ⟨?_, .inl rfl⟩
    simp [Page.chosen, before, chosen_newline empty, chosen_nil empty]
  · rw [after]
    exact ⟨by simp [Page.chosen, chosen_newline empty], .inr ⟨_, rfl⟩⟩

/-- A line end where a line begins makes a paragraph begin. -/
theorem Page.AtLine.clear {page : Page} (atLine : page.AtLine) :
    (page.put '\n').Clear := by
  rcases page.put_newline with ⟨text, before, after⟩ | ⟨goesOn, after⟩
  · rw [after]
    exact .inl rfl
  · rcases atLine with nothing | ⟨text, before⟩
    · rw [after, nothing]
      exact .inr rfl
    · exact (goesOn text before).elim

end Chosen

/-! ### Paragraphs -/

/-- How the lines of a text end. -/
inductive LineEnd where
  | returnNewline
  | carriageReturn
  | newline

def LineEnd.text : LineEnd → List Char
  | .returnNewline => ['\r', '\n']
  | .carriageReturn => ['\r']
  | .newline => ['\n']

/-- The text of lines. -/
def linesText (ending : LineEnd) (lines : List (List Char)) : List Char :=
  lines.flatMap fun line => line ++ ending.text

/-- The text of paragraphs of lines: an empty line ends each. -/
def paragraphText (ending : LineEnd) (paragraphs : List (List (List Char))) :
    List Char :=
  paragraphs.flatMap fun lines => linesText ending lines ++ ending.text

/-- A line has no line end within. -/
def Plain (line : List Char) : Prop :=
  ∀ char ∈ line, char ≠ '\n' ∧ char ≠ '\r'

/-- No newline of a text is taken for the rest of a line end. -/
def Reading.Ready (ending : LineEnd) (reading : Reading) : Prop :=
  ending = .newline → reading.afterReturn = false

section Runs

variable {chooses : List Char → Bool} {reading : Reading}
  {marks : List (Option Char)} {ending : LineEnd}

/-- The marks of two texts are those of one and then those of the other. -/
theorem split_marks {first second : List Char}
    (reads : marks.reduceOption = first ++ second) :
    ∃ before after, marks = before ++ after ∧
      before.reduceOption = first ∧ after.reduceOption = second :=
  List.filterMap_eq_append_iff.mp reads

/-- Chunks end, and no character follows. -/
theorem run_none (reading : Reading) (reads : marks.reduceOption = []) :
    (reading.run marks).toPage = reading.toPage ∧
      ((reading.run marks).afterReturn = true →
        reading.afterReturn = true) := by
  induction marks generalizing reading with
  | nil => exact ⟨rfl, id⟩
  | cons mark marks inductionHypothesis =>
      cases mark with
      | none =>
          obtain ⟨page, later⟩ :=
            inductionHypothesis (reading.step none) reads
          refine ⟨page, fun returned => ?_⟩
          cases later returned
      | some char => cases reads

/-- Chunks end, and a character follows. -/
theorem run_char (reading : Reading) {char : Char} {rest : List Char}
    (reads : marks.reduceOption = char :: rest) :
    ∃ returned later, (returned = true → reading.afterReturn = true) ∧
      later.reduceOption = rest ∧
      reading.run marks =
        (Reading.step { reading with afterReturn := returned }
          (some char)).run later := by
  induction marks generalizing reading with
  | nil => cases reads
  | cons mark marks inductionHypothesis =>
      cases mark with
      | none =>
          obtain ⟨returned, later, only, follows, same⟩ :=
            inductionHypothesis (reading.step none) reads
          refine ⟨returned, later, fun isTrue => ?_, follows, same⟩
          cases only isTrue
      | some first =>
          rw [List.reduceOption_cons_of_some, List.cons.injEq] at reads
          obtain ⟨rfl, follows⟩ := reads
          exact ⟨reading.afterReturn, marks, id, follows, rfl⟩

/-- A line without its end. -/
theorem run_line (reading : Reading) {line : List Char}
    (plain : Plain line)
    (reads : marks.reduceOption = line) :
    (reading.run marks).toPage =
        { reading.toPage with current := reading.current ++ line } ∧
      ((reading.run marks).afterReturn = true →
        reading.afterReturn = true) := by
  induction line generalizing reading marks with
  | nil =>
      obtain ⟨page, later⟩ := run_none reading reads
      exact ⟨by simp [page], later⟩
  | cons char line inductionHypothesis =>
      obtain ⟨notNewline, notReturn⟩ := plain char List.mem_cons_self
      obtain ⟨returned, later, only, follows, same⟩ :=
        run_char reading reads
      obtain ⟨page, afterwards⟩ := inductionHypothesis
        (Reading.step { reading with afterReturn := returned } (some char))
        (fun other among => plain other (List.mem_cons_of_mem _ among))
        follows
      rw [same]
      refine ⟨?_, fun isTrue => ?_⟩
      · rw [page]
        simp [Reading.step, notReturn, notNewline,
          Page.put_char notNewline]
      · have is := afterwards isTrue
        simp [Reading.step, notReturn, notNewline] at is

/-- A line end is one, or two if it is cut. -/
theorem run_end (ready : reading.Ready ending)
    (reads : marks.reduceOption = ending.text) :
    ((reading.run marks).toPage = reading.put '\n' ∨
        (reading.run marks).toPage = (reading.put '\n').put '\n') ∧
      (reading.run marks).Ready ending := by
  cases ending with
  | newline =>
      obtain ⟨returned, later, only, follows, same⟩ :=
        run_char reading reads
      have notReturned : returned = false := by
        rw [Bool.eq_false_iff]
        intro isTrue
        cases (only isTrue).symm.trans (ready rfl)
      obtain ⟨page, afterwards⟩ := run_none
        (Reading.step { reading with afterReturn := returned }
          (some '\n')) follows
      rw [same]
      refine ⟨.inl ?_, fun _ => ?_⟩
      · rw [page]
        simp [Reading.step, notReturned]
      · rw [Bool.eq_false_iff]
        intro isTrue
        have is := afterwards isTrue
        simp [Reading.step, notReturned] at is
  | carriageReturn =>
      obtain ⟨returned, later, -, follows, same⟩ :=
        run_char reading reads
      obtain ⟨page, -⟩ := run_none
        (Reading.step { reading with afterReturn := returned }
          (some '\r')) follows
      rw [same]
      refine ⟨.inl ?_, fun other => by cases other⟩
      rw [page]
      simp [Reading.step]
  | returnNewline =>
      obtain ⟨returned, later, -, follows, same⟩ :=
        run_char reading reads
      obtain ⟨cut, last, -, nothing, sameThen⟩ := run_char
        (Reading.step { reading with afterReturn := returned }
          (some '\r')) follows
      obtain ⟨page, -⟩ := run_none
        (Reading.step
          { Reading.step { reading with afterReturn := returned }
              (some '\r') with afterReturn := cut } (some '\n')) nothing
      rw [same, sameThen]
      refine ⟨?_, fun other => by cases other⟩
      rw [page]
      cases cut with
      | true => exact .inl (by simp [Reading.step])
      | false => exact .inr (by simp [Reading.step])

/-- A line that begins where a line begins is chosen or not, and nothing else
changes. -/
theorem Page.AtLine.chosen_append {page : Page} (atLine : page.AtLine)
    (empty : chooses [] = false) {line : List Char} (plain : Plain line) :
    Page.chosen chooses { page with current := page.current ++ line } =
      page.chosen chooses ++ [line].filter chooses := by
  have noNewline : '\n' ∉ line := fun member => (plain _ member).1 rfl
  have current : TextChunks.chosen chooses (page.current ++ line) =
      TextChunks.chosen chooses page.current ++ [line].filter chooses := by
    rcases atLine with nothing | ⟨text, before⟩
    · rw [nothing, List.nil_append, chosen_line noNewline,
        chosen_nil empty, List.nil_append]
    · rw [before, List.append_assoc, List.singleton_append,
        chosen_append_newline, chosen_newline empty, chosen_line noNewline]
  simp only [Page.chosen, current, List.append_assoc]

/-- A line end, cut or not, keeps what is chosen. -/
theorem chosen_run_end (empty : chooses [] = false)
    (ready : reading.Ready ending)
    (reads : marks.reduceOption = ending.text) :
    (reading.run marks).chosen chooses = reading.chosen chooses ∧
      (reading.run marks).AtLine ∧ (reading.run marks).Ready ending := by
  obtain ⟨ended, readyThen⟩ := run_end ready reads
  obtain ⟨once, atLine⟩ := reading.chosen_put_newline empty
  obtain ⟨twice, atLineThen⟩ :=
    (reading.put '\n').chosen_put_newline empty
  rcases ended with same | same
  · rw [same]
    exact ⟨once, atLine, readyThen⟩
  · rw [same]
    exact ⟨twice.trans once, atLineThen, readyThen⟩

/-- A line end where a line begins makes a paragraph begin. -/
theorem clear_run_end (atLine : reading.AtLine)
    (ready : reading.Ready ending)
    (reads : marks.reduceOption = ending.text) :
    (reading.run marks).Clear := by
  rcases (run_end ready reads).1 with same | same
  · rw [same]
    exact atLine.clear
  · rw [same]
    exact atLine.clear.atLine.clear

/-- The lines of a paragraph are chosen or not, one after the other. -/
theorem run_lines (empty : chooses [] = false) {lines : List (List Char)}
    (plain : ∀ line ∈ lines, Plain line) (atLine : reading.AtLine)
    (ready : reading.Ready ending)
    (reads : marks.reduceOption = linesText ending lines) :
    (reading.run marks).chosen chooses =
        reading.chosen chooses ++ lines.filter chooses ∧
      (reading.run marks).AtLine ∧ (reading.run marks).Ready ending := by
  induction lines generalizing reading marks with
  | nil =>
      obtain ⟨page, later⟩ := run_none reading reads
      rw [page]
      refine ⟨(List.append_nil _).symm, atLine, fun newline => ?_⟩
      rw [Bool.eq_false_iff]
      intro isTrue
      cases (later isTrue).symm.trans (ready newline)
  | cons line lines inductionHypothesis =>
      rw [linesText, List.flatMap_cons] at reads
      obtain ⟨marksOfLine, rest, rfl, readsLine, readsRest⟩ :=
        split_marks reads
      obtain ⟨marksOfText, marksOfEnd, rfl, readsText, readsEnd⟩ :=
        split_marks readsLine
      obtain ⟨page, later⟩ := run_line reading
        (plain line List.mem_cons_self) readsText
      have readyThen : (reading.run marksOfText).Ready ending := by
        intro newline
        rw [Bool.eq_false_iff]
        intro isTrue
        cases (later isTrue).symm.trans (ready newline)
      obtain ⟨ended, atLineThen, readyEnd⟩ :=
        chosen_run_end empty readyThen readsEnd
      obtain ⟨told, atLineLast, readyLast⟩ := inductionHypothesis
        (fun other among => plain other (List.mem_cons_of_mem _ among))
        atLineThen readyEnd readsRest
      rw [Reading.run_append, Reading.run_append]
      refine ⟨?_, atLineLast, readyLast⟩
      rw [told, ended, page,
        atLine.chosen_append empty (plain line List.mem_cons_self),
        List.append_assoc, ← List.filter_append]
      rfl

variable (chooses) in
/-- No paragraph has more than one chosen line. -/
def Page.Single (page : Page) : Prop :=
  ∀ text ∈ page.paragraphs, (TextChunks.chosen chooses text).length ≤ 1

/-- A paragraph is chosen from line by line, and the next one begins. -/
theorem run_paragraph (empty : chooses [] = false) {lines : List (List Char)}
    (plain : ∀ line ∈ lines, Plain line)
    (single : (lines.filter chooses).length ≤ 1) (clear : reading.Clear)
    (ready : reading.Ready ending) (earlier : reading.Single chooses)
    (reads : marks.reduceOption = linesText ending lines ++ ending.text) :
    (reading.run marks).paragraphs.flatMap (chosen chooses) =
        reading.paragraphs.flatMap (chosen chooses) ++
          lines.filter chooses ∧
      (reading.run marks).Clear ∧ (reading.run marks).Ready ending ∧
      (reading.run marks).Single chooses := by
  have grown := reading.paragraphs_run marks
  obtain ⟨marksOfLines, marksOfEnd, rfl, readsLines, readsEnd⟩ :=
    split_marks reads
  obtain ⟨told, atLine, readyThen⟩ :=
    run_lines empty plain clear.atLine ready readsLines
  obtain ⟨ended, -, readyEnd⟩ := chosen_run_end empty readyThen readsEnd
  have clearThen := clear_run_end atLine readyThen readsEnd
  rw [Reading.run_append] at grown ⊢
  rw [told] at ended
  simp only [Page.chosen, clearThen.chosen_current empty,
    clear.chosen_current empty, List.append_nil] at ended
  refine ⟨ended, clearThen, readyEnd, ?_⟩
  obtain ⟨new, same⟩ := grown
  rw [← same, List.flatMap_append, List.append_cancel_left_eq] at ended
  intro text member
  rw [← same] at member
  rcases List.mem_append.mp member with before | among
  · exact earlier text before
  · have part : (chosen chooses text).length ≤
        (new.flatMap (chosen chooses)).length :=
      (List.sublist_flatten_of_mem (List.mem_map_of_mem among)).length_le
    rw [ended] at part
    exact part.trans single

/-- Paragraphs are chosen from one by one. -/
theorem run_paragraphs (reading : Reading) (empty : chooses [] = false)
    {paragraphs : List (List (List Char))}
    (plain : ∀ lines ∈ paragraphs, ∀ line ∈ lines, Plain line)
    (single : ∀ lines ∈ paragraphs, (lines.filter chooses).length ≤ 1)
    (clear : reading.Clear) (ready : reading.Ready ending)
    (earlier : reading.Single chooses)
    (reads : marks.reduceOption = paragraphText ending paragraphs) :
    (reading.run marks).paragraphs.flatMap (chosen chooses) =
        reading.paragraphs.flatMap (chosen chooses) ++
          paragraphs.flatMap (List.filter chooses) ∧
      (reading.run marks).Single chooses := by
  induction paragraphs generalizing reading marks with
  | nil =>
      obtain ⟨page, -⟩ := run_none reading reads
      rw [page]
      exact ⟨(List.append_nil _).symm, earlier⟩
  | cons lines paragraphs inductionHypothesis =>
      rw [paragraphText, List.flatMap_cons] at reads
      obtain ⟨first, rest, rfl, readsFirst, readsRest⟩ := split_marks reads
      obtain ⟨told, clearThen, readyThen, singleThen⟩ :=
        run_paragraph empty (plain lines List.mem_cons_self)
          (single lines List.mem_cons_self) clear ready earlier readsFirst
      obtain ⟨toldRest, singleLast⟩ := inductionHypothesis _
        (fun other among => plain other (List.mem_cons_of_mem _ among))
        (fun other among => single other (List.mem_cons_of_mem _ among))
        clearThen readyThen singleThen readsRest
      rw [Reading.run_append]
      refine ⟨?_, singleLast⟩
      rw [toldRest, told, List.append_assoc, List.flatMap_cons]

end Runs

/-- However a text of paragraphs is cut, and wherever it breaks off: no
paragraph that is read has more than one chosen line, if none that was written
had, and those that are read have the chosen lines in order, as far as the
paragraphs have arrived. -/
theorem chosen_readParagraphs (chooses : List Char → Bool)
    {ending : LineEnd} {paragraphs : List (List (List Char))}
    {chunks : List (List Char)} {count : Nat} (empty : chooses [] = false)
    (plain : ∀ lines ∈ paragraphs, ∀ line ∈ lines, Plain line)
    (single : ∀ lines ∈ paragraphs, (lines.filter chooses).length ≤ 1)
    (arrived : chunks.flatten <+: paragraphText ending paragraphs)
    (whole : paragraphText ending (paragraphs.take count) <+:
      chunks.flatten) :
    (readParagraphs chunks).Single chooses ∧
      (paragraphs.take count).flatMap (List.filter chooses) <+:
        (readParagraphs chunks).paragraphs.flatMap (chosen chooses) ∧
      (readParagraphs chunks).paragraphs.flatMap (chosen chooses) <+:
        paragraphs.flatMap (List.filter chooses) := by
  have runs : ∀ marks part, marks.reduceOption = paragraphText ending part →
      (∀ lines ∈ part, lines ∈ paragraphs) →
      (Reading.run {} marks).paragraphs.flatMap (chosen chooses) =
          part.flatMap (List.filter chooses) ∧
        (Reading.run {} marks).Single chooses := by
    intro marks part reads among
    exact run_paragraphs {} empty
      (fun lines member => plain lines (among lines member))
      (fun lines member => single lines (among lines member))
      (.inl rfl) (fun _ => rfl) (fun text member => by cases member) reads
  have reads := reduceOption_marksOf chunks
  rw [readParagraphs_eq]
  obtain ⟨rest, total⟩ := arrived
  obtain ⟨tail, partly⟩ := whole
  -- What is still to come may be read in one more chunk.
  have readsAll : (marksOf chunks ++ rest.map some).reduceOption =
      paragraphText ending paragraphs := by
    rw [List.reduceOption_append, reads, ← total]
    simp [List.reduceOption]
  obtain ⟨all, singleAll⟩ := runs _ _ readsAll fun _ => id
  rw [Reading.run_append] at all singleAll
  have grows := Reading.paragraphs_run (Reading.run {} (marksOf chunks))
    (rest.map some)
  obtain ⟨first, later, cut, readsFirst, -⟩ :=
    split_marks (reads.trans partly.symm)
  obtain ⟨told, -⟩ := runs _ _ readsFirst fun lines member =>
    List.mem_of_mem_take member
  refine ⟨fun text member => singleAll text (grows.subset member), ?_, ?_⟩
  · rw [cut, Reading.run_append, ← told]
    exact (Reading.paragraphs_run _ later).flatMap _
  · rw [← all]
    exact grows.flatMap _

end TextChunks
