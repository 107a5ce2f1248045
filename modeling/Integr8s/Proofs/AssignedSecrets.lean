/-
Module: Integr8s.Proofs.AssignedSecrets
Purpose: A value that a log text assigns to the name of a key, token, secret or
  password does not survive the redaction.
Trusted boundary: none
Main exports: AssignedSecrets.Assignment, AssignedSecrets.assigned_secret_gone
-/
import Integr8s.Lib.RegexLanguage
import Integr8s.Proofs.LogRedaction

namespace Integr8s

namespace AssignedSecrets

open Regex Logging RedactionRules RedactedBlocks LogRedaction

/-- The names that the pattern for keys knows, as they are compared. -/
def keyNames : List String :=
  ["key", "token", "secret", "password", "passwd", "pwd"]

/-- A place in a text where a value is assigned to such a name, without quotes:
the name, the mark, and a run without quotes and backslashes. -/
structure Assignment (value : String) where
  before : List Letter
  name : List Letter
  gap : List Letter
  sign : Letter
  blank : List Letter
  secret : List Letter
  rest : List Letter
  parts : letters value =
    before ++ (name ++ gap ++ sign :: blank ++ (secret ++ rest))
  isName : ∃ word ∈ keyNames,
    name.map (fun letter => foldCase letter.char) = word.toList
  gapped : ∀ letter ∈ gap, PyText.isSpace letter.char = true
  isSign : isMark sign.char = true
  blanked : ∀ letter ∈ blank, PyText.isSpace letter.char = true
  begins : ∀ letter ∈ secret.head?, PyText.isSpace letter.char = false
  bare : ∀ letter ∈ secret, isQuoting letter.char = false

/-! ### Texts that the pattern stands for -/

section Spelling

/-- A text that is compared as a word is spelled by the word. -/
theorem spells_word {text : String} {chars : List Char}
    (same : chars.map foldCase = text.toList.map foldCase) :
    Spells (word text) chars := by
  unfold word
  generalize text.toList = letters at same
  induction letters generalizing chars with
  | nil =>
      rw [List.map_eq_nil_iff.mp same]
      exact .empty
  | cons c rest inductionHypothesis =>
      obtain ⟨first, more, rfl, head, tail⟩ := List.map_eq_cons_iff.mp same
      exact .join (.one (beq_iff_eq.mpr head)) (inductionHypothesis tail) rfl

private theorem spells_keyName {name gap : List Char} {known : String}
    (among : known ∈ keyNames)
    (same : name.map foldCase = known.toList.map foldCase)
    (gapped : ∀ c ∈ gap, PyText.isSpace c = true) :
    Spells keyName (name ++ gap) := by
  have named : Spells (oneOf [word "key", word "token", word "secret",
      word "password", word "passwd", word "pwd"]) name :=
    .oneOf (List.mem_map_of_mem among) (spells_word same)
  have ends : Spells (seq (opt escapedQuote) (star (one PyText.isSpace))) gap :=
    .join .none (.many gapped) rfl
  exact .join .none (.join .none (.seq named ends) rfl) rfl

private theorem spells_assignment {sign : Char} {blank : List Char}
    (isSign : isMark sign = true)
    (blanked : ∀ c ∈ blank, PyText.isSpace c = true) :
    Spells assignment (sign :: blank) := by
  exact .join (.one isSign)
    (.join (.many blanked) .none (List.append_nil blank)) rfl

private theorem spells_value {c : Char} (bare : isQuoting c = false) :
    Spells (seq (group 2 (plus valueChar)) (group 3 (opt escapedQuote)))
      [c] := by
  have accepted : (!isQuote c && c != '\\') = true := by
    simpa [isQuoting] using bare
  have char : Spells valueChar [c] := .left (.one accepted)
  exact .join (.group (.join char .rest rfl)) (.group .none) rfl

end Spelling

namespace Assignment

variable {value : String} (assigned : Assignment value)

/-! ### An assignment is found and covered -/

/-- What stands before the secret: the name and the mark. -/
def opening : List Letter :=
  assigned.name ++ assigned.gap ++ assigned.sign :: assigned.blank

theorem not_quote_of_isSpace {c : Char} (space : PyText.isSpace c = true) :
    isQuoting c = false := by
  by_contra quoting
  simp only [Bool.not_eq_false, isQuoting, isQuote, Bool.or_eq_true,
    beq_iff_eq] at quoting
  rcases quoting with (rfl | rfl) | rfl
  · cases space
  · cases space
  · cases space

private theorem not_quote_of_isMark {c : Char} (mark : isMark c = true) :
    isQuoting c = false ∧ PyText.isSpace c = false := by
  simp only [isMark, Bool.or_eq_true, beq_iff_eq] at mark
  rcases mark with rfl | rfl
  · decide
  · decide

/-- There is no quote in what stands before the secret. -/
theorem opening_unquoted :
    ∀ letter ∈ assigned.opening, isQuote letter.char = false := by
  have plain : ∀ {letter : Letter}, isQuoting letter.char = false →
      isQuote letter.char = false := by
    intro letter bare
    rw [isQuoting, Bool.or_eq_false_iff] at bare
    exact bare.1
  intro letter member
  rcases List.mem_append.mp member with member | member
  · rcases List.mem_append.mp member with inName | inGap
    · obtain ⟨word, known, same⟩ := assigned.isName
      have among : foldCase letter.char ∈ word.toList :=
        same ▸ List.mem_map_of_mem inName
      have unquoted : (keyNames.all fun word =>
          word.toList.all fun c => !isQuote c) = true := by decide
      have folded := List.all_eq_true.mp
        (List.all_eq_true.mp unquoted word known) _ among
      by_contra quote
      simp only [Bool.not_eq_false, isQuote, Bool.or_eq_true,
        beq_iff_eq] at quote
      rcases quote with same | same
      · rw [same] at folded
        cases folded
      · rw [same] at folded
        cases folded
    · exact plain (not_quote_of_isSpace (assigned.gapped letter inGap))
  · rcases List.mem_cons.mp member with rfl | inBlank
    · exact plain (not_quote_of_isMark assigned.isSign).1
    · exact plain (not_quote_of_isSpace (assigned.blanked letter inBlank))

variable {hit : Match Letter} {rest front matched back begun : List Letter}

/-- The front of a match ends before the secret. -/
theorem front_ends (parts : KeyParts hit rest front matched back)
    (whole : hit.text ++ rest =
      begun ++ (assigned.opening ++ (assigned.secret ++ assigned.rest)))
    (some : assigned.secret ≠ []) :
    ∃ more, begun ++ assigned.opening = front ++ more := by
  rw [parts.text, List.append_assoc, ← List.append_assoc begun] at whole
  rcases List.append_eq_append_iff.mp whole with
    ⟨more, ends, -⟩ | ⟨excess, ends, goesOn⟩
  · exact ⟨more, ends⟩
  · cases excess with
    | nil => exact ⟨[], by rw [ends, List.append_nil, List.append_nil]⟩
    | cons first excess =>
        obtain ⟨secretFirst, more, starts⟩ := List.exists_cons_of_ne_nil some
        rw [starts] at goesOn
        obtain ⟨rfl, -⟩ := List.cons.inj goesOn
        have space := assigned.begins secretFirst (by rw [starts]; rfl)
        have bare := assigned.bare secretFirst (by simp [starts])
        obtain ⟨name, mark, spaces, quote, named, unmarked, isMark, blank,
          quoting⟩ := parts.marked
        have sign := not_quote_of_isMark assigned.isSign
        -- The front has one mark only, the one before the secret.
        have one : name ++ mark :: (spaces ++ quote) =
            (begun ++ (assigned.name ++ assigned.gap)) ++ assigned.sign ::
              (assigned.blank ++ secretFirst :: excess) := by
          rw [← named, ends]
          simp [opening]
        have tail := ((List.append_cons_inj_of_notMem ?_ ?_).mp one).2.2
        · have member : secretFirst ∈ spaces ++ quote := by simp [tail]
          rcases List.mem_append.mp member with inSpaces | inQuote
          · rw [blank _ inSpaces] at space
            cases space
          · rw [quoting _ inQuote] at bare
            cases bare
        · intro member
          have plain := unmarked _ member
          rw [assigned.isSign] at plain
          cases plain
        · intro member
          rcases List.mem_append.mp member with inSpaces | inQuote
          · rw [blank _ inSpaces] at sign
            cases sign.2
          · rw [quoting _ inQuote] at sign
            cases sign.1

/-- A match that ends in what stands before the secret doesn't end with a
quote. -/
theorem opening_apart {after mark : List Letter} {quote : Letter}
    (inside : begun ++ assigned.opening = hit.text ++ after)
    (ends : hit.text = mark ++ [quote]) (isQuote : isQuote quote.char = true)
    (enters : begun.length < hit.text.length) : False := by
  rcases List.append_eq_append_iff.mp inside with
    ⟨reached, text, opens⟩ | ⟨short, text, -⟩
  · have some : reached ≠ [] := by
      rintro rfl
      rw [text, List.append_nil] at enters
      exact Nat.lt_irrefl _ enters
    obtain ⟨letter, among, same⟩ := mem_of_last some (List.cons_ne_nil quote [])
      (text.symm.trans ends)
    have bare := assigned.opening_unquoted letter (by simp [opens, among])
    rw [List.mem_singleton.mp same, isQuote] at bare
    cases bare
  · rw [text, List.length_append] at enters
    omega

/-- No match that reaches into an assignment ends before the end of the secret
with a quote. -/
theorem stops_apart {more missing mark : List Letter} {first quote : Letter}
    (parts : KeyParts hit rest front matched back)
    (before : begun ++ assigned.opening = front ++ more)
    (covers : more ++ assigned.secret = matched ++ first :: missing)
    (remains : back ++ rest = first :: missing ++ assigned.rest)
    (ends : back = mark ++ [quote]) (isQuote : isQuote quote.char = true)
    (quoting : ∀ letter ∈ back, isQuoting letter.char = true)
    (enters : begun.length < hit.text.length) (some : assigned.secret ≠ []) :
    False := by
  have bare : ∀ letter ∈ back, letter ∉ assigned.secret := by
    intro letter inBack inSecret
    have bare := assigned.bare letter inSecret
    rw [quoting letter inBack] at bare
    cases bare
  have someBack : back ≠ [] := by simp [ends]
  rcases List.append_eq_append_iff.mp covers with
    ⟨between, middle, goesOn⟩ | ⟨left, middle, goesOn⟩
  · -- The value ends in the secret.
    obtain ⟨letter, inBack, inMissing⟩ :=
      mem_of_head someBack (List.cons_ne_nil first missing) remains
    exact bare letter inBack (goesOn ▸ List.mem_append_right _ inMissing)
  · -- The value ends before it, and so does the match.
    rw [goesOn, List.append_assoc] at remains
    rcases List.append_eq_append_iff.mp remains with
      ⟨after, inOpening, -⟩ | ⟨beyond, inBack, follows⟩
    · apply assigned.opening_apart _ _ isQuote enters
      · exact after
      · exact front ++ (matched ++ mark)
      · rw [before, middle, inOpening, parts.text]
        simp
      · rw [parts.text, ends]
        simp
    · cases beyond with
      | nil =>
          apply assigned.opening_apart _ _ isQuote enters
          · exact []
          · exact front ++ (matched ++ mark)
          · rw [before, middle, parts.text, inBack]
            simp
          · rw [parts.text, ends]
            simp
      | cons token beyond =>
          obtain ⟨letter, inSecret, inBeyond⟩ :=
            mem_of_head some (List.cons_ne_nil token beyond) follows
          exact bare letter (inBack ▸ List.mem_append_right _ inBeyond) inSecret

/-- A match that reaches into an assignment has all of the secret in its
value. -/
theorem secret_covered (parts : KeyParts hit rest front matched back)
    (whole : hit.text ++ rest =
      begun ++ (assigned.opening ++ (assigned.secret ++ assigned.rest)))
    (enters : begun.length < hit.text.length)
    (some : assigned.secret ≠ []) : assigned.secret ⊆ matched := by
  obtain ⟨more, before⟩ := assigned.front_ends parts whole some
  have goesOn : (more ++ assigned.secret) ++ assigned.rest =
      matched ++ (back ++ rest) := by
    rw [parts.text, ← List.append_assoc begun, before] at whole
    simpa using whole.symm
  rcases List.append_eq_append_iff.mp goesOn with
    ⟨further, covers, -⟩ | ⟨missing, covers, remains⟩
  · rw [covers]
    intro letter among
    simp [among]
  · cases missing with
    | nil =>
        rw [List.append_nil] at covers
        exact covers ▸ List.subset_append_right more _
    | cons first missing =>
        rcases parts.stops with ⟨rfl, rfl⟩ | ⟨mark, quote, ends, isQuote, quoting⟩
        · cases remains
        · exact (assigned.stops_apart parts before covers remains ends isQuote
            quoting enters some).elim

/-- The pattern for keys finds a match where an assignment begins. -/
theorem found (before : List Letter) (holds : assigned.secret ≠ []) :
    ∃ stop, firstMatch (comap Letter.char keyPattern.pattern)
      { before := before
        after := assigned.opening ++ (assigned.secret ++ assigned.rest) } =
      some stop := by
  obtain ⟨first, more, starts⟩ := List.exists_cons_of_ne_nil holds
  obtain ⟨known, among, same⟩ := assigned.isName
  have fixed : (keyNames.all fun word =>
      word.toList.map foldCase == word.toList) = true := by decide
  have known_fixed : known.toList.map foldCase = known.toList :=
    eq_of_beq (List.all_eq_true.mp fixed known among)
  have named : Spells keyName
      (assigned.name.map Letter.char ++ assigned.gap.map Letter.char) := by
    apply spells_keyName among
    · rw [known_fixed, ← same, List.map_map]
      rfl
    · intro c member
      obtain ⟨letter, inGap, rfl⟩ := List.mem_map.mp member
      exact assigned.gapped letter inGap
  have signed : Spells assignment
      (assigned.sign.char :: assigned.blank.map Letter.char) := by
    apply spells_assignment assigned.isSign
    intro c member
    obtain ⟨letter, inBlank, rfl⟩ := List.mem_map.mp member
    exact assigned.blanked letter inBlank
  have bare := assigned.bare first (by simp [starts])
  have spells : Spells keyPattern.pattern
      (((assigned.name.map Letter.char ++ assigned.gap.map Letter.char) ++
        assigned.sign.char :: assigned.blank.map Letter.char) ++ [first.char]) :=
    .seq (.group (.seq named signed)) (spells_value bare)
  have source := @Spells.comap _ _ Letter.char _ _ spells
    (assigned.opening ++ [first]) (by simp [opening])
  have needs : Needs (fun _ => True) keyPattern.pattern :=
    .inl (.inr (.inl fun _ _ => trivial))
  obtain ⟨stop, found⟩ := @Spells.found _ _ _ (more ++ assigned.rest) before
    source (needs.comap Letter.char)
  refine ⟨stop, ?_⟩
  rw [starts]
  simpa using found

/-- The pattern for keys leaves out every letter of the secret. -/
theorem leavesOut {letter : Letter} (member : letter ∈ assigned.secret) :
    LeavesOut keyPattern (letters value) letter := by
  have holds := List.ne_nil_of_mem member
  have inText : letter ∈ letters value := by simp [assigned.parts, member]
  have traced := origin_letters letter inText
  have scan := scan_pieces (comap Letter.char keyPattern.pattern)
    (letters value)
  generalize pieces : pieces _ _ = all at scan
  cases scan.split assigned.parts with
  | @within earlier more scanBefore goesOn =>
      obtain ⟨stop, first⟩ :=
        assigned.found assigned.before.reverse holds
      obtain ⟨hit, later, rest, begins, whole, first⟩ := goesOn.begins
        (by simp) (by rw [List.append_nil, List.append_nil]; exact first)
      obtain ⟨front, matched, back, parts⟩ := key_parts first
      have among : Piece.matched hit ∈ earlier ++ more := by simp [begins]
      rw [← pieces] at among
      have some := (scan_pieces _ (letters value)).some hit among
      have starts : hit.text ++ (rest ++ []) = [] ++ (assigned.opening ++
          (assigned.secret ++ assigned.rest)) := by
        rw [List.append_nil]
        exact whole.symm
      have covers := assigned.secret_covered parts starts
        (List.length_pos_iff.mpr some) holds
      exact leavesOut_of_value parts (nodup_letters value) among traced
        (covers member)
  | @across start begun reached rest groups earlier more startsWith partsToo
      leaves enters scanStart hit goesOn =>
      rw [partsToo, ← List.append_assoc] at hit
      obtain ⟨front, matched, back, parts⟩ := key_parts hit
      have longer : begun.length < (begun ++ reached).length := by
        rw [List.length_append]
        have positive := List.length_pos_iff.mpr enters
        omega
      have whole : (begun ++ reached) ++ rest = begun ++ (assigned.opening ++
          (assigned.secret ++ assigned.rest)) := by
        rw [List.append_assoc, ← partsToo]
        rfl
      have covers := assigned.secret_covered parts whole longer holds
      refine leavesOut_of_value parts (nodup_letters value) ?_ traced
        (covers member)
      rw [pieces]
      exact List.mem_append_right _ List.mem_cons_self

end Assignment

/-- A value that is assigned without quotes to the name of a key, token, secret
or password is not in the redacted text, wherever the assignment stands. -/
theorem assigned_secret_gone {value : String} (assigned : Assignment value) :
    ∀ letter ∈ assigned.secret, letter ∉ trace value := by
  intro letter member
  have inText : letter ∈ letters value := by simp [assigned.parts, member]
  exact gone_of_key (assigned.leavesOut member) (origin_letters letter inText)

def pwdLine : String :=
  "login pwd = hunter2"

def pwdAssigned : Assignment pwdLine where
  before := slice pwdLine 0 6
  name := slice pwdLine 6 3
  gap := slice pwdLine 9 1
  sign := ⟨'=', some 10⟩
  blank := slice pwdLine 11 1
  secret := slice pwdLine 12 7
  rest := []
  parts := by decide +kernel
  isName := ⟨"pwd", by decide, by decide +kernel⟩
  gapped := by decide +kernel
  isSign := rfl
  blanked := by decide +kernel
  begins := by decide +kernel
  bare := by decide +kernel

theorem assigned_secret_gone_pwd : ⟨'h', some 12⟩ ∉ trace pwdLine :=
  assigned_secret_gone pwdAssigned _ (by decide +kernel)

-- With quotes a secret can stay: the match before it takes its opening quote.
example : redact "token=a pwd=\"b\"" =
    "token=***API_KEY_OR_TOKEN_REDACTED***\"b\"" := by
  decide +kernel

end AssignedSecrets

end Integr8s
