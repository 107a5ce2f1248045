/-
Module: Integr8s.Proofs.RedactionEffects
Purpose: What the redaction of a log text does as a whole: it takes characters
  out, keeps the others in their order, and puts markers in.
Trusted boundary: none
Main exports: RedactionEffects.redaction_keeps_order
-/
import Integr8s.Proofs.LogRedaction

namespace Integr8s

namespace RedactionEffects

open Regex Logging RedactionRules RedactedBlocks LogRedaction

section Rules

variable {text : List Letter} {hit : Match Letter}

/-- A match's text, from the first match that found it. -/
theorem captures_of_first {pattern : Regex Letter} {before rest : List Letter}
    {groups : _}
    (first : firstMatch pattern
      { before := before, after := text ++ rest } =
        some
          { before := text.reverse ++ before
            after := rest
            groups := groups }) :
    ⟨text.reverse ++ before, rest, groups⟩ ∈
      run pattern ⟨before, text ++ rest, []⟩ :=
  List.mem_of_head? (firstMatch_eq_some first).1

/-- A pattern of three groups of which the first and the last are kept. -/
theorem keeps_of_three {rule : SensitivePattern} {first second third : _}
    (shape : rule.pattern =
      seq (group 1 first) (seq (group 2 second) (group 3 third)))
    (before : rule.before = some 1) (after : rule.after = some 3)
    (plain : Groupless first) (plainToo : Groupless second)
    (plainLast : Groupless third) (among : hit ∈ matchesOf rule text) :
    (traced (rule.replacement Letter.made hit)).Sublist hit.text := by
  obtain ⟨earlier, later, starts⟩ :=
    (scan_pieces _ text).hit (mem_finditer.mp among)
  rw [shape] at starts
  obtain ⟨front, value, back, parts, captured⟩ := three_groups
    (plain.comap Letter.char) (plainToo.comap Letter.char)
    (plainLast.comap Letter.char) (captures_of_first starts)
  have whole : hit.text = front ++ (value ++ back) := by
    apply List.append_cancel_right
      (?_ : hit.text ++ (later ++ []) = _ ++ (later ++ []))
    simpa using parts
  have kept : rule.replacement Letter.made hit =
      front ++ rule.marker.toList.map Letter.made ++ back := by
    have groups : hit.groups = [(3, back), (2, value), (1, front)] := captured
    unfold SensitivePattern.replacement Match.captured
    rw [before, after, groups]
    rfl
  rw [kept, whole]
  simp only [traced_append, traced_marker, List.append_nil]
  exact (traced_sublist front).append
    ((traced_sublist back).trans (List.sublist_append_right value back))

private theorem groupless_escapedQuote : Groupless escapedQuote :=
  ⟨⟨trivial, trivial⟩, trivial⟩

private theorem groupless_valueChar : Groupless valueChar :=
  ⟨trivial, trivial, trivial⟩

private theorem keeps_key (among : hit ∈ matchesOf keyPattern text) :
    (traced (keyPattern.replacement Letter.made hit)).Sublist hit.text :=
  keeps_of_three rfl rfl rfl groupless_name
    ⟨groupless_valueChar, groupless_valueChar⟩ ⟨groupless_escapedQuote, trivial⟩
    among

private theorem keeps_bearer (among : hit ∈ matchesOf bearerPattern text) :
    (traced (bearerPattern.replacement Letter.made hit)).Sublist hit.text := by
  obtain ⟨_, _, first⟩ := (scan_pieces _ text).hit (mem_finditer.mp among)
  obtain ⟨front, value, parts⟩ := bearer_parts first
  rw [parts.replaced, parts.text]
  simp only [traced_append, traced_marker, List.append_nil]
  exact (traced_sublist front).trans (List.sublist_append_left front value)

private theorem keeps_jwt (hit : Match Letter) :
    (traced (jwtPattern.replacement Letter.made hit)).Sublist hit.text := by
  have kept : jwtPattern.replacement Letter.made hit =
      jwtPattern.marker.toList.map Letter.made := List.append_nil _
  rw [kept, traced_marker]
  exact List.nil_sublist _

/-- A pattern for the credentials between a scheme and the `@`. -/
theorem keeps_credentials {rule : SensitivePattern} {scheme : String}
    {secure : Regex Char}
    (shape : rule.pattern =
      seq (group 1 (seq (word scheme) (seq (opt secure)
        (seq (word "://") (seq (plus (one (· != ':'))) (letter ':'))))))
        (seq (group 2 (plus (one (· != '@')))) (group 3 (letter '@'))))
    (before : rule.before = some 1) (after : rule.after = some 3)
    (plain : Groupless secure) (among : hit ∈ matchesOf rule text) :
    (traced (rule.replacement Letter.made hit)).Sublist hit.text :=
  keeps_of_three shape before after
    ⟨groupless_word _, ⟨plain, trivial⟩, groupless_word _, ⟨trivial, trivial⟩,
      trivial⟩ ⟨trivial, trivial⟩ trivial among

/-- Every pattern takes letters out of its matches and keeps the others in
their order. -/
theorem keeps_rule {rule : SensitivePattern} (known : rule ∈ sensitivePatterns)
    (among : hit ∈ matchesOf rule text) :
    (traced (rule.replacement Letter.made hit)).Sublist hit.text := by
  simp only [sensitivePatterns, List.mem_cons, List.not_mem_nil,
    or_false] at known
  rcases known with rfl | rfl | rfl | rfl | rfl
  · exact keeps_key among
  · exact keeps_bearer among
  · exact keeps_jwt hit
  · exact keeps_credentials rfl rfl rfl (groupless_word _) among
  · exact keeps_credentials rfl rfl rfl trivial among

/-- What a match of the e-mail pattern captures: the local part, and after the
`@` the domain. -/
theorem keeps_email
    (among : hit ∈ finditer (comap Letter.char emailPattern) text) :
    (traced (maskEmail Letter.made hit)).Sublist hit.text := by
  obtain ⟨earlier, later, starts⟩ :=
    (scan_pieces _ text).hit (mem_finditer.mp among)
  obtain ⟨start, asserts, member⟩ :=
    mem_run_seq.mp (captures_of_first starts)
  obtain ⟨-, rfl⟩ := mem_run_assert.mp asserts
  obtain ⟨begun, begins, member⟩ := mem_run_seq.mp member
  obtain ⟨middle, marked, ends⟩ := mem_run_seq.mp member
  have localPlain : Groupless (atomic (plus (one isLocal))) :=
    ⟨trivial, trivial⟩
  have markPlain : Groupless (Logging.letter '@') := trivial
  have domainPlain : Groupless (seq (plus (one isDomain))
      (seq (Logging.letter '.') (seq (one fun c => (foldCase c).isAlpha)
        (plus (one fun c => (foldCase c).isAlpha))))) :=
    ⟨⟨trivial, trivial⟩, trivial, trivial, trivial, trivial⟩
  obtain ⟨name, parts, captured⟩ :=
    (localPlain.comap Letter.char).captures begins
  obtain ⟨mark, consumed⟩ := exists_consumed marked
  obtain ⟨domain, follows, capturedToo⟩ :=
    (domainPlain.comap Letter.char).captures ends
  rw [(markPlain.comap Letter.char).groups marked, captured] at capturedToo
  have whole : hit.text = name ++ (mark ++ domain) := by
    apply List.append_cancel_right
      (?_ : hit.text ++ (later ++ []) = _ ++ (later ++ []))
    have all : hit.text ++ (later ++ []) =
        name ++ (mark ++ (domain ++ (later ++ []))) := by
      rw [← follows, ← consumed.after]
      exact parts
    simpa using all
  have kept : maskEmail Letter.made hit =
      name.take 3 ++ "***@".toList.map Letter.made ++ domain := by
    have groups : hit.groups = [(2, domain), (1, name)] := capturedToo
    unfold maskEmail Match.captured
    rw [groups]
    rfl
  rw [kept, whole]
  simp only [traced_append, traced_marker, List.append_nil]
  exact ((traced_sublist _).trans (List.take_sublist 3 name)).append
    ((traced_sublist domain).trans (List.sublist_append_right mark domain))

end Rules

section Redaction

/-- What the redaction puts in. -/
def markers : List Char :=
  sensitivePatterns.flatMap (fun rule => rule.marker.toList) ++ "***@".toList

private theorem traced_foldl {rules : List SensitivePattern}
    (known : rules ⊆ sensitivePatterns) (text : List Letter) :
    (traced (rules.foldl (fun text rule => after rule text) text)).Sublist
      (traced text) := by
  induction rules generalizing text with
  | nil => exact List.Sublist.refl _
  | cons rule rules inductionHypothesis =>
      apply (inductionHypothesis (fun _ among =>
        known (List.mem_cons_of_mem _ among)) _).trans
      have kept : (traced (after rule text)).Sublist text :=
        traced_sub fun hit => keeps_rule (known List.mem_cons_self)
      rw [← traced_traced]
      exact traced_mono kept

private theorem mem_foldl {rules : List SensitivePattern} {text : List Letter}
    {letter : Letter}
    (member : letter ∈ rules.foldl (fun text rule => after rule text) text) :
    letter ∈ text ∨ ∃ rule ∈ rules,
      letter ∈ rule.marker.toList.map Letter.made := by
  induction rules generalizing text with
  | nil => exact .inl member
  | cons rule rules inductionHypothesis =>
      rcases inductionHypothesis member with inside | ⟨other, among, put⟩
      · exact (mem_after inside).imp_right
          fun put => ⟨rule, List.mem_cons_self, put⟩
      · exact .inr ⟨other, List.mem_cons_of_mem _ among, put⟩

/-- The text before e-mail addresses are masked. -/
theorem trace_eq_foldl (value : String) :
    trace value = sub (comap Letter.char emailPattern) (maskEmail Letter.made)
      (sensitivePatterns.foldl (fun text rule => after rule text)
        (letters value)) :=
  rfl

private theorem marker_subset {rule : SensitivePattern}
    (known : rule ∈ sensitivePatterns) : rule.marker.toList ⊆ markers := by
  intro c among
  exact List.mem_append_left _ (List.mem_flatMap.mpr ⟨rule, known, among⟩)

/-- The redaction of a text keeps characters of it, each at most once and in
their order, and all else in it is from the markers. -/
theorem redaction_keeps_order (value : String) :
    ∃ text : List Letter, text.map Letter.char = (redact value).toList ∧
      (traced text).Sublist (letters value) ∧
      ∀ letter ∈ text,
        letter ∈ letters value ∨ letter ∈ markers.map Letter.made := by
  refine ⟨trace value, trace_char value, ?_⟩
  rw [trace_eq_foldl]
  have ruled := traced_foldl (List.Subset.refl _) (letters value)
  constructor
  · generalize sensitivePatterns.foldl (fun text rule => after rule text)
      (letters value) = redacted at ruled ⊢
    have masked : (traced (sub (comap Letter.char emailPattern)
        (maskEmail Letter.made) redacted)).Sublist redacted :=
      traced_sub fun hit => keeps_email
    have masked := traced_mono masked
    rw [traced_traced] at masked
    exact masked.trans (ruled.trans (traced_sublist _))
  · intro letter member
    rcases mem_email member with inside | put
    · rcases mem_foldl inside with inside | ⟨rule, known, put⟩
      · exact .inl inside
      · exact .inr (List.map_subset _ (marker_subset known) put)
    · exact .inr (List.map_subset _ (List.subset_append_right _ _) put)

end Redaction

end RedactionEffects

end Integr8s
