/-
Module: Integr8s.Proofs.LogRedaction
Purpose: When the redaction of a log text removes the payload and the signature
  of a JWT in it.
Trusted boundary: none
Main exports: LogRedaction.Jwt, LogRedaction.Jwt.Covered,
  LogRedaction.Jwt.Redacted, LogRedaction.redacted_iff
-/
import Integr8s.Proofs.RedactedBlocks
import Mathlib.Data.List.DropRight
import Mathlib.Data.List.Nodup

namespace Integr8s

namespace LogRedaction

open Regex Logging RedactionRules RedactedBlocks

/-! ### Letters with their places -/

section Traces

/-- The characters of a text, each with its place. -/
def letters (value : String) : List Letter :=
  value.toList.zipIdx.map fun entry => ⟨entry.1, some entry.2⟩

/-- A redacted text whose characters tell where they were at first. -/
def trace (value : String) : List Letter :=
  redactText Letter.char Letter.made (letters value)

theorem nodup_letters (value : String) : (letters value).Nodup := by
  apply List.Nodup.of_map fun letter => letter.origin
  have places : (letters value).map (fun letter => letter.origin) =
      (value.toList.zipIdx.map Prod.snd).map some := by
    rw [letters, List.map_map, List.map_map]
    rfl
  rw [places, List.zipIdx_map_snd]
  exact List.Nodup.map (Option.some_injective _) List.nodup_range'

theorem origin_letters {value : String} :
    ∀ letter ∈ letters value, letter.origin ≠ none := by
  intro letter member
  obtain ⟨entry, -, rfl⟩ := List.mem_map.mp member
  exact Option.some_ne_none _

private theorem letters_char (value : String) :
    (letters value).map Letter.char = value.toList := by
  simp [letters, Function.comp_def]

private theorem replacement_map (rule : SensitivePattern) (hit : Match Letter) :
    (rule.replacement Letter.made hit).map Letter.char =
      rule.replacement id (hit.map Letter.char) := by
  have captures : ∀ index : Option Nat,
      ((index.map hit.captured).getD []).map Letter.char =
        (index.map (hit.map Letter.char).captured).getD [] := by
    intro index
    cases index with
    | none => rfl
    | some index => exact (captured_map hit index).symm
  unfold SensitivePattern.replacement
  simp only [List.map_append, captures, List.map_map]
  rfl

private theorem sub_char (rule : SensitivePattern) (text : List Letter) :
    (after rule text).map Letter.char =
      rule.sub id id (text.map Letter.char) := by
  unfold after SensitivePattern.sub
  rw [← sub_map (replacement_map rule), comap_comap]
  rfl

theorem foldl_char (rules : List SensitivePattern) (text : List Letter) :
    (rules.foldl (fun text rule => after rule text) text).map Letter.char =
      rules.foldl (fun text rule => rule.sub id id text)
        (text.map Letter.char) := by
  induction rules generalizing text with
  | nil => rfl
  | cons rule rules inductionHypothesis =>
      rw [List.foldl_cons, inductionHypothesis, sub_char]
      rfl

private theorem maskEmail_map (hit : Match Letter) :
    (maskEmail Letter.made hit).map Letter.char =
      maskEmail id (hit.map Letter.char) := by
  unfold maskEmail
  simp only [List.map_append, List.map_take, captured_map, List.map_map]
  rfl

/-- What is traced of a redacted text reads as the redacted text. -/
theorem trace_char (value : String) :
    (trace value).map Letter.char = (redact value).toList := by
  unfold trace redact redactText
  rw [String.toList_ofList, ← letters_char, ← foldl_char,
    ← sub_map maskEmail_map, comap_comap]
  rfl

/-- A text after the first two patterns. -/
def afterTwo (value : String) : List Letter :=
  after bearerPattern (after keyPattern (letters value))

/-- A text after the first three patterns. -/
def afterThree (value : String) : List Letter :=
  after jwtPattern (afterTwo value)

private theorem trace_eq (value : String) :
    trace value = sub (comap Letter.char emailPattern)
      (maskEmail Letter.made)
      (after urlPattern (after mongodbPattern (afterThree value))) := by
  unfold trace redactText sensitivePatterns
  simp only [List.foldl_cons, List.foldl_nil]
  rfl

end Traces

/-! ### A token in a line -/

section Tokens

/-- `[A-Za-z0-9_-]`: the characters of a base64url segment. -/
def isUrlSafe (c : Char) : Bool :=
  c.isAlphanum || c == '-' || c == '_'

/-- A JWT in a text: three segments joined by dots, of which the first two
begin with `eyJ`. -/
structure Jwt (value : String) where
  before : List Letter
  header : List Letter
  firstDot : Letter
  payload : List Letter
  secondDot : Letter
  signature : List Letter
  rest : List Letter
  parts : letters value = before ++
    (header ++ firstDot :: (payload ++ secondDot :: signature) ++ rest)
  isFirstDot : firstDot.char = '.'
  isSecondDot : secondDot.char = '.'
  headerBegins : "eyJ".toList <+: header.map Letter.char
  payloadBegins : "eyJ".toList <+: payload.map Letter.char
  signed : signature ≠ []
  headerSafe : ∀ letter ∈ header, isUrlSafe letter.char = true
  payloadSafe : ∀ letter ∈ payload, isUrlSafe letter.char = true
  signatureSafe : ∀ letter ∈ signature, isUrlSafe letter.char = true

namespace Jwt

variable {value : String} (jwt : Jwt value)

def token : List Letter :=
  jwt.header ++ jwt.firstDot :: (jwt.payload ++ jwt.secondDot :: jwt.signature)

/-- The longest run of base64url characters and dots around a JWT. -/
def block : List Letter :=
  jwt.before.rtakeWhile (fun letter => inBlock letter.char) ++
    (jwt.token ++ jwt.rest.takeWhile fun letter => inBlock letter.char)

/-- A rule reaches a segment: the pattern for keys leaves out a letter of it,
or the one for JWTs does in what the Bearer pattern leaves of the block. -/
def Reached (segment : List Letter) : Prop :=
  (∃ letter ∈ segment, LeavesOut keyPattern (letters value) letter) ∨
    ∃ letter ∈ segment,
      LeavesOut jwtPattern (remaining (letters value) jwt.block) letter

/-- The rules reach the payload and the signature. -/
def Covered : Prop :=
  jwt.Reached jwt.payload ∧ jwt.Reached jwt.signature

/-- Neither the payload nor the signature from its place is in the redacted
text. -/
def Redacted : Prop :=
  ¬ jwt.payload <:+: trace value ∧ ¬ jwt.signature <:+: trace value

instance (segment : List Letter) : Decidable (jwt.Reached segment) :=
  inferInstanceAs (Decidable (_ ∨ _))

instance : Decidable jwt.Covered :=
  inferInstanceAs (Decidable (_ ∧ _))

instance : Decidable jwt.Redacted :=
  inferInstanceAs (Decidable (_ ∧ _))

/-- The characters of a segment are in the class of the patterns. -/
theorem isBase64_of_isUrlSafe {c : Char} (safe : isUrlSafe c = true) :
    isBase64 c = true := by
  have folded : c.isAlphanum = true → (foldCase c).isAlphanum = true := by
    intro alphanum
    unfold foldCase
    split
    · decide
    split
    · decide
    split
    · decide
    · by_cases upper : 'A'.val ≤ c.val ∧ c.val ≤ 'Z'.val
      · have alpha := isAlpha_of_isLower (isLower_toLower upper.1 upper.2)
        have either : c.toLower.isAlphanum =
            (c.toLower.isAlpha || c.toLower.isDigit) := rfl
        rw [either, alpha, Bool.true_or]
      · unfold Char.toLower
        rwa [dif_neg upper]
  simp only [isUrlSafe, isBase64, Bool.or_eq_true, beq_iff_eq] at safe ⊢
  exact safe.imp_left (Or.imp_left folded)

/-- The text before the block of a JWT. -/
def left : List Letter :=
  jwt.before.rdropWhile fun letter => inBlock letter.char

/-- The text after the block of a JWT. -/
def right : List Letter :=
  jwt.rest.dropWhile fun letter => inBlock letter.char

private theorem letters_eq :
    letters value = jwt.left ++ (jwt.block ++ jwt.right) := by
  have front := @List.rdropWhile_append_rtakeWhile _
    (fun letter : Letter => inBlock letter.char) jwt.before
  have back := @List.takeWhile_append_dropWhile _
    (fun letter : Letter => inBlock letter.char) jwt.rest
  unfold left block right
  rw [List.append_assoc, List.append_assoc, back, ← List.append_assoc, front]
  exact jwt.parts

private theorem left_endsApart : EndsApart jwt.left := by
  unfold EndsApart left
  intro letter ends
  obtain ⟨some, rfl⟩ := List.mem_getLast?_eq_getLast ends
  have apart := List.rdropWhile_last_not _ jwt.before some
  simpa using apart

private theorem right_startsApart : StartsApart jwt.right := by
  intro letter starts
  have apart := List.head?_dropWhile_not
    (fun letter : Letter => inBlock letter.char) jwt.rest
  unfold right at starts
  rw [Option.mem_def.mp starts] at apart
  exact apart

private theorem token_inside :
    ∀ letter ∈ jwt.token, inBlock letter.char = true := by
  have safe : ∀ {segment : List Letter},
      (∀ letter ∈ segment, isUrlSafe letter.char = true) →
        ∀ letter ∈ segment, inBlock letter.char = true := by
    intro segment safe letter member
    simp [inBlock, isBase64_of_isUrlSafe (safe letter member)]
  have dots : ∀ {dot : Letter}, dot.char = '.' → inBlock dot.char = true := by
    intro dot isDot
    simp [inBlock, isDot]
  intro letter member
  rcases List.mem_append.mp member with header | member
  · exact safe jwt.headerSafe letter header
  rcases List.mem_cons.mp member with rfl | member
  · exact dots jwt.isFirstDot
  rcases List.mem_append.mp member with payload | member
  · exact safe jwt.payloadSafe letter payload
  rcases List.mem_cons.mp member with rfl | signature
  · exact dots jwt.isSecondDot
  · exact safe jwt.signatureSafe letter signature

private theorem block_inside :
    ∀ letter ∈ jwt.block, inBlock letter.char = true := by
  intro letter member
  rcases List.mem_append.mp member with front | member
  · have inside := List.mem_rtakeWhile_imp front
    exact inside
  · rcases List.mem_append.mp member with inToken | back
    · exact jwt.token_inside letter inToken
    · have inside := List.mem_takeWhile_imp back
      exact inside

private theorem block_dotted : ∃ letter ∈ jwt.block, letter.char = '.' :=
  ⟨jwt.firstDot, by simp [block, token], jwt.isFirstDot⟩

theorem unique : (jwt.left ++ (jwt.block ++ jwt.right)).Nodup :=
  jwt.letters_eq ▸ nodup_letters value

private theorem block_traced : ∀ letter ∈ jwt.block, letter.origin ≠ none := by
  intro letter member
  apply origin_letters letter
  rw [jwt.letters_eq]
  simp [member]

/-- The pattern for keys leaves out the block, or what the Bearer pattern
leaves of it stands apart in the text. -/
theorem block_after_two :
    (∀ letter ∈ jwt.block, LeavesOut keyPattern (letters value) letter) ∨
      ∃ first last, afterTwo value =
        first ++ (remaining (letters value) jwt.block ++ last) ∧
        EndsApart first ∧ StartsApart last := by
  rw [afterTwo, jwt.letters_eq]
  rcases key_block jwt.unique jwt.block_traced jwt.block_inside
    jwt.block_dotted with leftOut | ⟨before, later, stays, same, begins⟩
  · exact .inl leftOut
  · obtain ⟨first, last, goesOn, endsApart, beginsToo⟩ :=
      @bearer_block _ _ _ _ later jwt.unique jwt.block_traced
        jwt.block_inside jwt.block_dotted jwt.left_endsApart same
    refine .inr ⟨first, last, ?_, endsApart, ?_⟩
    · rw [stays, goesOn]
    · intro letter starts
      rw [beginsToo, begins] at starts
      exact jwt.right_startsApart letter starts

/-- The payload and the signature are in what the Bearer pattern leaves. -/
theorem suffix_remaining :
    jwt.firstDot :: (jwt.payload ++ jwt.secondDot :: (jwt.signature ++
      jwt.rest.takeWhile fun letter => inBlock letter.char)) <:+
        remaining (letters value) jwt.block := by
  have parts : jwt.block =
      (jwt.before.rtakeWhile (fun letter => inBlock letter.char) ++
        jwt.header) ++ jwt.firstDot :: (jwt.payload ++ jwt.secondDot ::
          (jwt.signature ++
            jwt.rest.takeWhile fun letter => inBlock letter.char)) := by
    simp [block, token]
  have stops : ¬ isBase64 jwt.firstDot.char = true := by
    rw [jwt.isFirstDot]
    decide
  unfold remaining
  rw [parts]
  split
  · rw [List.dropWhile_append]
    split
    · simp [stops]
    · exact List.suffix_append _ _
  · exact List.suffix_append _ _

private theorem payload_remaining :
    jwt.payload <:+: remaining (letters value) jwt.block := by
  apply List.IsInfix.trans _ jwt.suffix_remaining.isInfix
  apply List.IsInfix.trans _ (List.suffix_cons _ _).isInfix
  exact (List.prefix_append _ _).isInfix

private theorem signature_remaining :
    jwt.signature <:+: remaining (letters value) jwt.block := by
  apply List.IsInfix.trans _ jwt.suffix_remaining.isInfix
  apply List.IsInfix.trans _ (List.suffix_cons _ _).isInfix
  apply List.IsInfix.trans _ (List.suffix_append _ _).isInfix
  apply List.IsInfix.trans _ (List.suffix_cons _ _).isInfix
  exact (List.prefix_append _ _).isInfix

end Jwt

/-- What the Bearer pattern leaves of a block is a part of it. -/
theorem remaining_suffix (text block : List Letter) :
    remaining text block <:+ block := by
  unfold remaining
  split
  · exact List.dropWhile_suffix _
  · exact List.suffix_rfl

end Tokens

/-! ### What the rules leave of it -/

section Rules

variable {value : String} {letter : Letter} {text : List Letter}

/-- The masking of e-mail addresses puts nothing in but its marker. -/
theorem mem_email
    (member : letter ∈ sub (comap Letter.char emailPattern)
      (maskEmail Letter.made) text) :
    letter ∈ text ∨ letter ∈ "***@".toList.map Letter.made := by
  rcases mem_sub member with inside | ⟨hit, among, inside⟩
  · exact .inl inside
  · have captures : ∀ index, letter ∈ hit.captured index → letter ∈ text := by
      intro index captured
      apply (infix_of_mem_finditer among).subset
      exact ((scan_pieces _ text).captured (mem_finditer.mp among)
        index).subset captured
    rcases List.mem_append.mp inside with member | domain
    · rcases List.mem_append.mp member with begins | marker
      · exact .inl (captures 1 (List.mem_of_mem_take begins))
      · exact .inr marker
    · exact .inl (captures 2 domain)

/-- The last patterns put no letters in that were there at first. -/
theorem mem_afterThree (traced : letter.origin ≠ none)
    (member : letter ∈ trace value) : letter ∈ afterThree value := by
  rw [trace_eq] at member
  have masked := (mem_email member).resolve_right (not_mem_marker traced _)
  exact mem_of_mem_after traced (mem_of_mem_after traced masked)

/-- What the pattern for keys leaves out is not in the redacted text. -/
theorem gone_of_key
    (leftOut : LeavesOut keyPattern (letters value) letter)
    (traced : letter.origin ≠ none) : letter ∉ trace value := by
  intro member
  apply leftOut.not_mem traced (nodup_letters value)
  have inThree := mem_afterThree traced member
  unfold afterThree afterTwo at inThree
  exact mem_of_mem_after traced (mem_of_mem_after traced inThree)

private theorem plain_jwt : Plain jwtPattern.pattern :=
  ⟨plain_word _, ⟨trivial, trivial⟩, trivial, plain_word _, ⟨trivial, trivial⟩,
    trivial, trivial, trivial⟩

theorem over_jwt : Over (fun c => inBlock c = true) jwtPattern.pattern := by
  have letters : ∀ c ∈ "eyJ".toList, (foldCase c).isAlphanum = true :=
    List.all_iff_forall_prop.mp (by decide)
  have begins : Over (fun c => inBlock c = true) (word "eyJ") :=
    over_word fun c among other same => by
      simp [inBlock, isBase64_of_like (letters c among) same]
  have dot : Over (fun c => inBlock c = true) (letter '.') := by
    intro c same
    have isDot : c = '.' := eq_of_foldCase (eq_of_beq same) (by decide)
    simp [inBlock, isDot]
  have base64 : Over (fun c => inBlock c = true) (plus (one isBase64)) :=
    ⟨fun c isBase64 => by simp [inBlock, isBase64],
      fun c isBase64 => by simp [inBlock, isBase64]⟩
  exact ⟨begins, base64, dot, begins, base64, dot, base64⟩

/-- The pattern for JWTs acts on what stands apart in a text by itself. -/
theorem jwt_apart {first block last : List Letter} (endsApart : EndsApart first)
    (startsApart : StartsApart last) :
    after jwtPattern (first ++ (block ++ last)) =
      after jwtPattern first ++
        (after jwtPattern block ++ after jwtPattern last) := by
  have plain := plain_jwt.comap Letter.char
  have ranges := over_jwt.comap Letter.char
  unfold after SensitivePattern.sub
  rw [sub_append_of_last plain ranges fun letter ends => by
      simp [endsApart letter ends],
    sub_append_of_head plain ranges fun letter starts => by
      simp [startsApart letter starts]]

/-- The patterns after the one for JWTs match nothing without an `@`. -/
theorem needs_at : Needs (· = '@') (Logging.letter '@') :=
  fun _ same => eq_of_foldCase (eq_of_beq same) (by decide)

private theorem needs_at_mongodb : Needs (· = '@') mongodbPattern.pattern :=
  .inr (.inr needs_at)

private theorem needs_at_url : Needs (· = '@') urlPattern.pattern :=
  .inr (.inr needs_at)

private theorem needs_at_email : Needs (· = '@') emailPattern :=
  .inr (.inr (.inl needs_at))

private theorem absent_after {rule : SensitivePattern} {c : Char}
    (marker : c ∉ rule.marker.toList)
    (absent : ∀ letter ∈ text, letter.char ≠ c) :
    ∀ letter ∈ after rule text, letter.char ≠ c := by
  intro letter member
  rcases mem_after member with inside | put
  · exact absent letter inside
  · obtain ⟨other, among, rfl⟩ := List.mem_map.mp put
    exact fun same => marker (same ▸ among)

/-- A text without an `@` is as the first three patterns leave it. -/
theorem trace_eq_afterThree (plain : '@' ∉ value.toList) :
    trace value = afterThree value := by
  have absent : ∀ letter ∈ afterThree value, letter.char ≠ '@' := by
    unfold afterThree afterTwo
    apply absent_after (by decide)
    apply absent_after (by decide)
    apply absent_after (by decide)
    intro letter member same
    rw [← letters_char] at plain
    exact plain (same ▸ List.mem_map_of_mem member)
  have mongodb : after mongodbPattern (afterThree value) = afterThree value :=
    sub_of_needless (needs_at_mongodb.comap Letter.char) absent
  have url : after urlPattern (afterThree value) = afterThree value :=
    sub_of_needless (needs_at_url.comap Letter.char) absent
  rw [trace_eq, mongodb, url]
  exact sub_of_needless (needs_at_email.comap Letter.char) absent

end Rules

/-! ### Payload and signature -/

section Claims

variable {value : String} (jwt : Jwt value) {segment : List Letter}
  {letter : Letter}

/-- What the Bearer pattern leaves of a block is in a text once. -/
theorem Jwt.once {first last : List Letter}
    (parts : afterTwo value =
      first ++ (remaining (letters value) jwt.block ++ last))
    (member : letter ∈ remaining (letters value) jwt.block) :
    letter ∉ first ∧ letter ∉ last := by
  have origin := jwt.block_traced letter
    ((remaining_suffix _ _).subset member)
  have isTraced : ∀ {text : List Letter}, letter ∈ text →
      letter ∈ traced text :=
    fun inside => List.mem_filter.mpr ⟨inside, Option.isSome_iff_ne_none.mpr
      origin⟩
  have unique : (traced (afterTwo value)).Nodup := by
    have inner := (traced_after_key (letters value)).nodup
      (nodup_letters value)
    have outer :=
      traced_mono (traced_after_bearer (after keyPattern (letters value)))
    rw [traced_traced] at outer
    exact outer.nodup inner
  rw [parts, traced_append, traced_append, List.nodup_append,
    List.nodup_append] at unique
  obtain ⟨-, ⟨-, -, apartLast⟩, apartFirst⟩ := unique
  constructor
  · intro inFirst
    exact apartFirst letter (isTraced inFirst) letter
      (List.mem_append_left _ (isTraced member)) rfl
  · intro inLast
    exact apartLast letter (isTraced member) letter (isTraced inLast) rfl

/-- What the pattern for JWTs leaves out of a block by itself is not in the
redacted text. -/
theorem Jwt.gone (member : letter ∈ remaining (letters value) jwt.block)
    (leftOut : LeavesOut jwtPattern (remaining (letters value) jwt.block)
      letter) : letter ∉ trace value := by
  have inBlock := (remaining_suffix _ _).subset member
  have origin := jwt.block_traced letter inBlock
  intro inTrace
  rcases jwt.block_after_two with byKey | ⟨first, last, parts, ends, starts⟩
  · exact gone_of_key (byKey letter inBlock) origin inTrace
  · have inThree := mem_afterThree origin inTrace
    rw [afterThree, parts, jwt_apart ends starts] at inThree
    obtain ⟨apartFirst, apartLast⟩ := jwt.once parts member
    rcases List.mem_append.mp inThree with inFirst | inThree
    · exact apartFirst (mem_of_mem_after origin inFirst)
    · rcases List.mem_append.mp inThree with here | inLast
      · have unique : (remaining (letters value) jwt.block).Nodup := by
          have within := jwt.unique
          rw [List.nodup_append, List.nodup_append] at within
          exact (remaining_suffix _ _).sublist.nodup within.2.1.1
        exact leftOut.not_mem origin unique here
      · exact apartLast (mem_of_mem_after origin inLast)

/-- A segment that a rule reaches is not in the redacted text. -/
theorem Jwt.Reached.not_infix {jwt : Jwt value} (reached : jwt.Reached segment)
    (within : segment <:+: remaining (letters value) jwt.block) :
    ¬ segment <:+: trace value := by
  intro stays
  rcases reached with ⟨letter, member, byKey⟩ | ⟨letter, member, byJwt⟩
  · have inBlock := (remaining_suffix _ _).subset (within.subset member)
    exact gone_of_key byKey (jwt.block_traced letter inBlock)
      (stays.subset member)
  · exact jwt.gone (within.subset member) byJwt (stays.subset member)

/-- A segment that no rule reaches is in the redacted text when the text has no
`@`. -/
theorem Jwt.infix_of_unreached (plain : '@' ∉ value.toList)
    (some : segment ≠ [])
    (within : segment <:+: remaining (letters value) jwt.block)
    (unreached : ¬ jwt.Reached segment) : segment <:+: trace value := by
  obtain ⟨notByKey, notByJwt⟩ := not_or.mp unreached
  have inBlock : ∀ letter ∈ segment, letter ∈ jwt.block :=
    fun letter member =>
      (remaining_suffix _ _).subset (within.subset member)
  rcases jwt.block_after_two with byKey | ⟨first, last, parts, ends, starts⟩
  · obtain ⟨letter, member⟩ := List.exists_mem_of_ne_nil _ some
    exact absurd ⟨letter, member, byKey letter (inBlock letter member)⟩ notByKey
  · rw [trace_eq_afterThree plain, afterThree, parts, jwt_apart ends starts]
    have stays : segment <:+:
        after jwtPattern (remaining (letters value) jwt.block) := by
      apply infix_sub some within
      intro hit among letter member inHit
      apply notByJwt
      refine ⟨letter, member, hit, among, inHit, fun kept => ?_⟩
      have marker : letter ∈ jwtPattern.marker.toList.map Letter.made := by
        simpa [SensitivePattern.replacement, jwtPattern] using kept
      exact not_mem_marker (jwt.block_traced letter (inBlock letter member)) _
        marker
    exact stays.trans (List.infix_append' _ _ _)

/-- The redacted text has neither the payload nor the signature of a JWT whose
payload and signature the rules reach; without an `@` in the text, when the
rules after the one for JWTs have nothing to match, it has one of them
otherwise. -/
theorem redacted_iff :
    (jwt.Covered → jwt.Redacted) ∧
      ('@' ∉ value.toList → jwt.Redacted → jwt.Covered) := by
  have signed := jwt.signed
  have some : jwt.payload ≠ [] := by
    intro nothing
    have begins := jwt.payloadBegins
    rw [nothing] at begins
    exact absurd begins (by decide)
  constructor
  · rintro ⟨payload, signature⟩
    exact ⟨payload.not_infix jwt.payload_remaining,
      signature.not_infix jwt.signature_remaining⟩
  · rintro plain ⟨payload, signature⟩
    constructor
    · by_contra unreached
      exact payload
        (jwt.infix_of_unreached plain some jwt.payload_remaining unreached)
    · by_contra unreached
      exact signature
        (jwt.infix_of_unreached plain signed jwt.signature_remaining unreached)

/-- The letters of a text from a place on. -/
def slice (value : String) (start length : Nat) : List Letter :=
  ((letters value).drop start).take length

def plainLine : String :=
  "as eyJhbGci.eyJzdWIi.c2ln now"

def plainToken : Jwt plainLine where
  before := slice plainLine 0 3
  header := slice plainLine 3 8
  firstDot := ⟨'.', some 11⟩
  payload := slice plainLine 12 8
  secondDot := ⟨'.', some 20⟩
  signature := slice plainLine 21 4
  rest := slice plainLine 25 4
  parts := by decide +kernel
  isFirstDot := rfl
  isSecondDot := rfl
  headerBegins := by decide +kernel
  payloadBegins := by decide +kernel
  signed := by decide +kernel
  headerSafe := by decide +kernel
  payloadSafe := by decide +kernel
  signatureSafe := by decide +kernel

theorem redacted_iff_plain : plainToken.Redacted ∧ plainToken.Covered :=
  ⟨(redacted_iff plainToken).1 (by decide +kernel),
    (redacted_iff plainToken).2 (by decide +kernel) (by decide +kernel)⟩

def bearerLine : String :=
  "Bearer eyJhbGci.eyJzdWIi.c2ln"

def bearerToken : Jwt bearerLine where
  before := slice bearerLine 0 7
  header := slice bearerLine 7 8
  firstDot := ⟨'.', some 15⟩
  payload := slice bearerLine 16 8
  secondDot := ⟨'.', some 24⟩
  signature := slice bearerLine 25 4
  rest := []
  parts := by decide +kernel
  isFirstDot := rfl
  isSecondDot := rfl
  headerBegins := by decide +kernel
  payloadBegins := by decide +kernel
  signed := by decide +kernel
  headerSafe := by decide +kernel
  payloadSafe := by decide +kernel
  signatureSafe := by decide +kernel

/-- The Bearer pattern leaves out the header only, and without it the pattern
for JWTs doesn't see what is left. -/
theorem bearer_token_leaks :
    (bearerToken.payload <:+: trace bearerLine ∧
      bearerToken.signature <:+: trace bearerLine ∧ ¬ bearerToken.Redacted) ∧
    redact bearerLine = "Bearer ***BEARER_TOKEN_REDACTED***.eyJzdWIi.c2ln" := by
  constructor
  · decide +kernel
  · decide +kernel

end Claims

end LogRedaction

end Integr8s
