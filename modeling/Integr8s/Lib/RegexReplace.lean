/-
Module: Integr8s.Lib.RegexReplace
Purpose: The matches of a pattern in a text, one after the other from the left,
  and the text with every match replaced; where a text can be cut without
  cutting a match.
Trusted boundary: human-reviewed spec
Main exports: Regex.Match, Regex.pieces, Regex.finditer, Regex.sub,
  Regex.Within, Regex.pieces_append, Regex.Needs, Regex.sub_of_needless,
  Regex.scan_append, Regex.infix_sub, Regex.comap, Regex.sub_map
-/
import Integr8s.Lib.Regex
import Mathlib.Data.List.Infix

universe u v

namespace Regex

variable {Token : Type u}

/-- A match: its text, and what its groups captured. -/
structure Match (Token : Type u) where
  text : List Token
  groups : List (Nat × List Token)
deriving DecidableEq, Repr

/-- What a group captured, as a replacement reads it. -/
def Match.captured (found : Match Token) (index : Nat) : List Token :=
  (found.groups.lookup index).getD []

/-- A token that no match covers, or a match. -/
inductive Piece (Token : Type u) where
  | kept (token : Token)
  | matched (found : Match Token)

namespace Piece

def text : Piece Token → List Token
  | kept token => [token]
  | matched found => found.text

def match? : Piece Token → Option (Match Token)
  | kept _ => none
  | matched found => some found

def replaced (replacement : Match Token → List Token) :
    Piece Token → List Token
  | kept token => [token]
  | matched found => replacement found

end Piece

/-- Where the first match from a place ends, if it consumes something. -/
def firstMatch (pattern : Regex Token) (cursor : Cursor Token) :
    Option (Cursor Token) :=
  (run pattern { cursor with groups := [] }).head?.filter fun stop =>
    decide (stop.after.length < cursor.after.length)

/-- A text in pieces, from a place on; a token is one step at least. -/
def piecesFrom (pattern : Regex Token) :
    Nat → List Token → List Token → List (Piece Token)
  | 0, _, _ | _, _, [] => []
  | steps + 1, before, token :: rest =>
      let start : Cursor Token := { before := before, after := token :: rest }
      match firstMatch pattern start with
      | none => .kept token :: piecesFrom pattern steps (token :: before) rest
      | some stop =>
          .matched ⟨start.textTo stop, stop.groups⟩ ::
            piecesFrom pattern steps stop.before stop.after

/-- The matches of a pattern in a text, and what is between them. -/
def pieces (pattern : Regex Token) (text : List Token) : List (Piece Token) :=
  piecesFrom pattern text.length [] text

/-- `re.finditer`, for a pattern that matches no empty text. -/
def finditer (pattern : Regex Token) (text : List Token) : List (Match Token) :=
  (pieces pattern text).filterMap Piece.match?

/-- `re.sub`, for a pattern that matches no empty text. -/
def sub (pattern : Regex Token) (replacement : Match Token → List Token)
    (text : List Token) : List Token :=
  (pieces pattern text).flatMap (Piece.replaced replacement)

/-- A text that another one follows is in pieces from a place on. -/
inductive Scan (pattern : Regex Token) (tail : List Token) :
    List Token → List Token → List (Piece Token) → Prop where
  | done {before : List Token} : Scan pattern tail before [] []
  | keep {before rest : List Token} {token : Token}
      {pieces : List (Piece Token)}
      (absent : firstMatch pattern
        { before := before, after := token :: rest ++ tail } = none)
      (scan : Scan pattern tail (token :: before) rest pieces) :
      Scan pattern tail before (token :: rest) (.kept token :: pieces)
  | found {before text rest groups : _} {pieces : List (Piece Token)}
      (first : firstMatch pattern
        { before := before, after := text ++ rest ++ tail } =
          some
            { before := text.reverse ++ before
              after := rest ++ tail
              groups := groups })
      (scan : Scan pattern tail (text.reverse ++ before) rest pieces) :
      Scan pattern tail before (text ++ rest)
        (.matched ⟨text, groups⟩ :: pieces)

/-! ### What a match consumes -/

section Consumption

variable {cursor stop : Cursor Token} {pattern : Regex Token}

/-- Of the text between two places with what was captured on the way: every
capture is new and a part of that text, or was there before. -/
structure Consumed (start stop : Cursor Token) (text : List Token) : Prop where
  after : start.after = text ++ stop.after
  before : stop.before = text.reverse ++ start.before
  groups : ∀ entry ∈ stop.groups, entry ∈ start.groups ∨ entry.2 <:+: text

theorem Consumed.refl (cursor : Cursor Token) : Consumed cursor cursor [] :=
  ⟨rfl, rfl, fun _ => .inl⟩

theorem Consumed.trans {start middle stop : Cursor Token}
    {first second : List Token} (begins : Consumed start middle first)
    (ends : Consumed middle stop second) :
    Consumed start stop (first ++ second) where
  after := by rw [begins.after, ends.after, List.append_assoc]
  before := by
    rw [ends.before, begins.before, List.reverse_append, List.append_assoc]
  groups entry member := by
    rcases ends.groups entry member with among | part
    · rcases begins.groups entry among with already | part
      · exact .inl already
      · exact .inr (part.trans (List.prefix_append _ _).isInfix)
    · exact .inr (part.trans (List.suffix_append _ _).isInfix)

/-- The tokens of a pattern are all of a kind. -/
def Over (accepts : Token → Prop) : Regex Token → Prop
  | empty | assert _ => True
  | one test => ∀ token, test token = true → accepts token
  | seq first second | alt first second =>
      Over accepts first ∧ Over accepts second
  | star body | atomic body | group _ body => Over accepts body

/-- A pattern needs a token of a kind. -/
def Needs (accepts : Token → Prop) : Regex Token → Prop
  | empty | assert _ | star _ => False
  | one test => ∀ token, test token = true → accepts token
  | seq first second => Needs accepts first ∨ Needs accepts second
  | alt first second => Needs accepts first ∧ Needs accepts second
  | atomic body | group _ body => Needs accepts body

/-- A pattern without assertions. -/
def Plain : Regex Token → Prop
  | empty | one _ => True
  | assert _ => False
  | seq first second | alt first second => Plain first ∧ Plain second
  | star body | atomic body | group _ body => Plain body

/-- Rounds that consume tokens of a kind consume them all along. -/
theorem consumed_of_star {body : Regex Token} {accepts : Token → Prop}
    (one : ∀ {cursor stop : Cursor Token}, stop ∈ run body cursor →
      ∃ text, Consumed cursor stop text ∧ ∀ token ∈ text, accepts token)
    (member : stop ∈ run (star body) cursor) :
    ∃ text, Consumed cursor stop text ∧ ∀ token ∈ text, accepts token := by
  induction length : cursor.after.length using Nat.strong_induction_on
    generalizing cursor with
  | _ count inductionHypothesis =>
      rw [run_star] at member
      rcases List.mem_append.mp member with more | here
      · obtain ⟨middle, among, rest⟩ := List.mem_flatMap.mp more
        obtain ⟨round, shorter⟩ := List.mem_filter.mp among
        obtain ⟨first, begins, accepted⟩ := one round
        obtain ⟨second, ends, acceptedToo⟩ := inductionHypothesis _
          (length ▸ of_decide_eq_true shorter) rest rfl
        refine ⟨first ++ second, begins.trans ends, fun token member => ?_⟩
        rcases List.mem_append.mp member with inFirst | inSecond
        · exact accepted token inFirst
        · exact acceptedToo token inSecond
      · rw [List.mem_singleton.mp here]
        exact ⟨[], .refl cursor, nofun⟩

/-- A match consumes text, in tokens that the pattern is over. -/
theorem Over.consumed {accepts : Token → Prop} (ranges : Over accepts pattern)
    (member : stop ∈ run pattern cursor) :
    ∃ text, Consumed cursor stop text ∧ ∀ token ∈ text, accepts token := by
  induction pattern generalizing cursor stop with
  | empty =>
      rw [mem_run_empty.mp member]
      exact ⟨[], .refl cursor, nofun⟩
  | one test =>
      obtain ⟨token, rest, starts, passes, rfl⟩ := mem_run_one.mp member
      refine ⟨[token], ⟨starts, rfl, fun _ => .inl⟩, fun other among => ?_⟩
      rw [List.mem_singleton.mp among]
      exact ranges token passes
  | assert holds =>
      obtain ⟨-, rfl⟩ := mem_run_assert.mp member
      exact ⟨[], .refl _, nofun⟩
  | seq first second firstHypothesis secondHypothesis =>
      obtain ⟨middle, begins, ends⟩ := mem_run_seq.mp member
      obtain ⟨text, consumed, accepted⟩ := firstHypothesis ranges.1 begins
      obtain ⟨more, consumedToo, acceptedToo⟩ :=
        secondHypothesis ranges.2 ends
      refine ⟨_, consumed.trans consumedToo, fun token among => ?_⟩
      rcases List.mem_append.mp among with inFirst | inSecond
      · exact accepted token inFirst
      · exact acceptedToo token inSecond
  | alt first second firstHypothesis secondHypothesis =>
      rcases mem_run_alt.mp member with left | right
      · exact firstHypothesis ranges.1 left
      · exact secondHypothesis ranges.2 right
  | star body inductionHypothesis =>
      exact consumed_of_star (inductionHypothesis ranges) member
  | atomic body inductionHypothesis =>
      exact inductionHypothesis ranges (List.mem_of_mem_take member)
  | group index body inductionHypothesis =>
      obtain ⟨inner, among, rfl⟩ := mem_run_group.mp member
      obtain ⟨text, consumed, accepted⟩ := inductionHypothesis ranges among
      refine ⟨text, ⟨consumed.after, consumed.before, fun entry member => ?_⟩,
        accepted⟩
      rcases List.mem_cons.mp member with rfl | earlier
      · right
        rw [Cursor.textTo_of_append consumed.after]
      · exact consumed.groups entry earlier

theorem over_true (pattern : Regex Token) : Over (fun _ => True) pattern := by
  induction pattern with
  | empty => trivial
  | one test => exact fun _ _ => trivial
  | assert holds => trivial
  | seq first second firstHypothesis secondHypothesis =>
      exact ⟨firstHypothesis, secondHypothesis⟩
  | alt first second firstHypothesis secondHypothesis =>
      exact ⟨firstHypothesis, secondHypothesis⟩
  | star body inductionHypothesis => exact inductionHypothesis
  | atomic body inductionHypothesis => exact inductionHypothesis
  | group index body inductionHypothesis => exact inductionHypothesis

theorem exists_consumed (member : stop ∈ run pattern cursor) :
    ∃ text, Consumed cursor stop text := by
  obtain ⟨text, consumed, -⟩ := (over_true pattern).consumed member
  exact ⟨text, consumed⟩

/-- What a pattern needs, a match consumes. -/
theorem Needs.consumed {accepts : Token → Prop}
    (needs : Needs accepts pattern) (member : stop ∈ run pattern cursor) :
    ∃ text, Consumed cursor stop text ∧ ∃ token ∈ text, accepts token := by
  induction pattern generalizing cursor stop with
  | empty => exact needs.elim
  | one test =>
      obtain ⟨token, rest, starts, passes, rfl⟩ := mem_run_one.mp member
      exact ⟨[token], ⟨starts, rfl, fun _ => .inl⟩, token, by simp,
        needs token passes⟩
  | assert holds => exact needs.elim
  | seq first second firstHypothesis secondHypothesis =>
      obtain ⟨middle, begins, ends⟩ := mem_run_seq.mp member
      rcases needs with early | late
      · obtain ⟨text, consumed, token, among, accepted⟩ :=
          firstHypothesis early begins
        obtain ⟨more, consumedToo⟩ := exists_consumed ends
        exact ⟨_, consumed.trans consumedToo, token,
          List.mem_append_left _ among, accepted⟩
      · obtain ⟨text, consumed⟩ := exists_consumed begins
        obtain ⟨more, consumedToo, token, among, accepted⟩ :=
          secondHypothesis late ends
        exact ⟨_, consumed.trans consumedToo, token,
          List.mem_append_right _ among, accepted⟩
  | alt first second firstHypothesis secondHypothesis =>
      rcases mem_run_alt.mp member with left | right
      · exact firstHypothesis needs.1 left
      · exact secondHypothesis needs.2 right
  | star body inductionHypothesis => exact needs.elim
  | atomic body inductionHypothesis =>
      exact inductionHypothesis needs (List.mem_of_mem_take member)
  | group index body inductionHypothesis =>
      obtain ⟨inner, among, rfl⟩ := mem_run_group.mp member
      obtain ⟨text, consumed, token, inside, accepted⟩ :=
        inductionHypothesis needs among
      refine ⟨text, ⟨consumed.after, consumed.before, fun entry member => ?_⟩,
        token, inside, accepted⟩
      rcases List.mem_cons.mp member with rfl | earlier
      · right
        rw [Cursor.textTo_of_append consumed.after]
      · exact consumed.groups entry earlier

end Consumption

/-! ### A match does not look past its text

A pattern without assertions that takes letters of one kind only does the same
on a text that is cut off after a letter of another kind. -/

section Cutting

variable {cursor stop : Cursor Token} {pattern : Regex Token}
  {accepts : Token → Prop} {before after : List Token}

/-- A place in a text that stands within a longer one. -/
def Cursor.within (before after : List Token) (cursor : Cursor Token) :
    Cursor Token :=
  { cursor with
    before := cursor.before ++ before
    after := cursor.after ++ after }

private theorem textTo_within {start : Cursor Token} {text : List Token}
    (consumed : start.after = text ++ stop.after) :
    (start.within before after).textTo (stop.within before after) =
      start.textTo stop := by
  rw [Cursor.textTo_of_append consumed]
  apply Cursor.textTo_of_append
  simp [Cursor.within, consumed]

/-- A repetition within a longer text, when one round is as it is alone. -/
theorem run_star_within {body : Regex Token}
    (one : ∀ cursor : Cursor Token, run body (cursor.within before after) =
      (run body cursor).map (Cursor.within before after)) :
    run (star body) (cursor.within before after) =
      (run (star body) cursor).map (Cursor.within before after) := by
  induction length : cursor.after.length using Nat.strong_induction_on
    generalizing cursor with
  | _ count inductionHypothesis =>
      have fewer : ((run body (cursor.within before after)).filter fun next =>
            next.after.length < (cursor.within before after).after.length) =
          ((run body cursor).filter fun next =>
            next.after.length < cursor.after.length).map
              (Cursor.within before after) := by
        rw [one, List.filter_map]
        congr 1
        apply List.filter_congr
        intro next _
        simp [Cursor.within]
      rw [run_star, run_star, fewer, List.map_append, List.map_singleton,
        List.flatMap_map, List.map_flatMap]
      congr 1
      apply List.flatMap_congr
      intro next among
      have shorter := of_decide_eq_true (List.mem_filter.mp among).2
      exact inductionHypothesis _ (length ▸ shorter) rfl

/-- Where a longer text goes on with a token that a pattern doesn't accept, and
before it, a pattern without assertions sees nothing of it. -/
theorem run_within (plain : Plain pattern) (ranges : Over accepts pattern)
    (apart : ∀ token ∈ after.head?, ¬ accepts token) :
    run pattern (cursor.within before after) =
      (run pattern cursor).map (Cursor.within before after) := by
  induction pattern generalizing cursor with
  | empty => rfl
  | one test =>
      obtain ⟨earlier, rest, groups⟩ := cursor
      cases rest with
      | nil =>
          cases after with
          | nil => rfl
          | cons token more =>
              have fails : test token = false :=
                Bool.eq_false_iff.mpr fun passes =>
                  apart token rfl (ranges token passes)
              simp [run, Cursor.within, fails]
      | cons token rest =>
          by_cases passes : test token
          · simp [run, Cursor.within, passes, Cursor.past]
          · simp [run, Cursor.within, passes]
  | assert holds => exact plain.elim
  | seq first second firstHypothesis secondHypothesis =>
      simp only [run, firstHypothesis plain.1 ranges.1, List.flatMap_map,
        List.map_flatMap, secondHypothesis plain.2 ranges.2]
  | alt first second firstHypothesis secondHypothesis =>
      simp only [run, firstHypothesis plain.1 ranges.1,
        secondHypothesis plain.2 ranges.2, List.map_append]
  | star body inductionHypothesis =>
      exact run_star_within fun cursor => inductionHypothesis plain ranges
  | atomic body inductionHypothesis =>
      simp only [run, inductionHypothesis plain ranges, List.map_take]
  | group index body inductionHypothesis =>
      simp only [run, inductionHypothesis plain ranges, List.map_map]
      apply List.map_congr_left
      intro inner among
      obtain ⟨text, consumed⟩ := exists_consumed among
      simp only [Function.comp_apply, textTo_within consumed.after]
      rfl

/-- The first match from a place is a match that consumes something. -/
theorem firstMatch_eq_some
    (first : firstMatch pattern cursor = some stop) :
    (run pattern { cursor with groups := [] }).head? = some stop ∧
      ∃ text, text ≠ [] ∧
        Consumed { cursor with groups := [] } stop text := by
  obtain ⟨head, shorter⟩ := Option.filter_eq_some_iff.mp first
  refine ⟨head, ?_⟩
  obtain ⟨text, consumed⟩ := exists_consumed (List.mem_of_head? head)
  refine ⟨text, ?_, consumed⟩
  rintro rfl
  have same : cursor.after = stop.after := consumed.after
  simp [same] at shorter

/-- What is within a longer text is matched as it is alone. -/
theorem firstMatch_within (plain : Plain pattern) (ranges : Over accepts pattern)
    (apart : ∀ token ∈ after.head?, ¬ accepts token) :
    firstMatch pattern (cursor.within before after) =
      (firstMatch pattern cursor).map (Cursor.within before after) := by
  unfold firstMatch
  have same := @run_within _ { cursor with groups := [] } _ _ before _ plain ranges
    apart
  rw [show ({ cursor.within before after with groups := [] } : Cursor Token) =
    ({ cursor with groups := [] } : Cursor Token).within before after from rfl,
    same, List.head?_map]
  cases (run pattern { cursor with groups := [] }).head? with
  | none => rfl
  | some stop => simp [Option.filter, Cursor.within]

end Cutting

/-! ### Scans are what the search finds -/

section Scanning

variable {pattern : Regex Token} {before after tail : List Token}
  {found : List (Piece Token)}

/-- A text has pieces. -/
theorem exists_scan (pattern : Regex Token) (before after : List Token) :
    ∃ found, Scan pattern [] before after found := by
  induction length : after.length using Nat.strong_induction_on
    generalizing before after with
  | _ count inductionHypothesis =>
      cases after with
      | nil => exact ⟨[], .done⟩
      | cons token rest =>
          cases first : firstMatch pattern
              { before := before, after := token :: rest } with
          | none =>
              obtain ⟨found, scan⟩ := inductionHypothesis rest.length
                (by simp [← length]) (token :: before) rest rfl
              exact ⟨_, .keep (by simpa using first) scan⟩
          | some stop =>
              obtain ⟨-, text, some, consumed⟩ := firstMatch_eq_some first
              obtain ⟨_, last, groups⟩ := stop
              obtain ⟨parts, rfl, -⟩ := consumed
              dsimp only at parts
              have shorter : last.length < count := by
                have nonempty := List.length_pos_iff.mpr some
                rw [← length, parts, List.length_append]
                omega
              obtain ⟨found, scan⟩ :=
                inductionHypothesis _ shorter (text.reverse ++ before) last rfl
              rw [parts] at first ⊢
              exact ⟨_, .found (by simpa using first) scan⟩

/-- There is one way to find the pieces. -/
theorem Scan.eq_piecesFrom (scan : Scan pattern [] before after found)
    {steps : Nat} (enough : after.length ≤ steps) :
    piecesFrom pattern steps before after = found := by
  induction scan generalizing steps with
  | done => cases steps <;> rfl
  | @keep before rest token pieces absent scan inductionHypothesis =>
      cases steps with
      | zero => cases enough
      | succ steps =>
          rw [List.append_nil] at absent
          simp only [piecesFrom, absent]
          rw [inductionHypothesis (Nat.le_of_succ_le_succ enough)]
  | @found before text rest groups pieces first scan inductionHypothesis =>
      simp only [List.append_nil] at first
      obtain ⟨-, consumed, some, begins, -, -⟩ := firstMatch_eq_some first
      cases List.append_cancel_right begins
      cases text with
      | nil => exact absurd rfl some
      | cons token text =>
          cases steps with
          | zero => cases enough
          | succ steps =>
              rw [List.cons_append] at first enough ⊢
              simp only [piecesFrom, first]
              rw [@Cursor.textTo_of_append _ _ _ (token :: text) rfl,
                inductionHypothesis (by simp at enough; omega)]

/-- The pieces of a text are what a scan of it finds. -/
theorem scan_pieces (pattern : Regex Token) (text : List Token) :
    Scan pattern [] [] text (pieces pattern text) := by
  obtain ⟨found, scan⟩ := exists_scan pattern [] text
  rwa [pieces, scan.eq_piecesFrom (Nat.le_refl _)]

theorem Scan.eq_pieces (scan : Scan pattern [] [] after found) :
    pieces pattern after = found :=
  scan.eq_piecesFrom (Nat.le_refl _)

/-- The pieces are all of the text. -/
theorem Scan.text (scan : Scan pattern tail before after found) :
    found.flatMap Piece.text = after := by
  induction scan with
  | done => rfl
  | keep absent scan inductionHypothesis =>
      rw [List.flatMap_cons, inductionHypothesis]
      rfl
  | found first scan inductionHypothesis =>
      rw [List.flatMap_cons, inductionHypothesis]
      rfl

/-- A match that a scan finds is the first match from its place. -/
theorem Scan.hit {hit : Match Token}
    (scan : Scan pattern tail before after found)
    (among : Piece.matched hit ∈ found) :
    ∃ earlier later, firstMatch pattern
        { before := earlier, after := hit.text ++ (later ++ tail) } =
      some
        { before := hit.text.reverse ++ earlier
          after := later ++ tail
          groups := hit.groups } := by
  induction scan with
  | done => cases among
  | keep absent scan inductionHypothesis =>
      cases among with
      | tail _ among => exact inductionHypothesis among
  | @found before text rest groups pieces first scan inductionHypothesis =>
      cases among with
      | tail _ among => exact inductionHypothesis among
      | head =>
          rw [List.append_assoc] at first
          exact ⟨before, rest, first⟩

/-- Every match consumes something. -/
theorem Scan.some (scan : Scan pattern tail before after found) :
    ∀ hit, Piece.matched hit ∈ found → hit.text ≠ [] := by
  intro hit among
  obtain ⟨earlier, later, first⟩ := scan.hit among
  obtain ⟨-, text, some, consumed⟩ := firstMatch_eq_some first
  have same : text = hit.text :=
    List.append_cancel_right (consumed.after.symm.trans rfl)
  exact same ▸ some

/-- A scan begins with the match that there is at its place. -/
theorem Scan.begins {stop : Cursor Token}
    (scan : Scan pattern tail before after found) (holds : after ≠ [])
    (first : firstMatch pattern
      { before := before, after := after ++ tail } = Option.some stop) :
    ∃ hit more rest, found = .matched hit :: more ∧ after = hit.text ++ rest ∧
      firstMatch pattern
          { before := before, after := hit.text ++ (rest ++ tail) } =
        Option.some
          { before := hit.text.reverse ++ before
            after := rest ++ tail
            groups := hit.groups } := by
  cases scan with
  | done => exact absurd rfl holds
  | keep absent => cases absent.symm.trans first
  | found hit =>
      rw [List.append_assoc] at hit
      exact ⟨_, _, _, rfl, rfl, hit⟩

/-- There is nothing to find in an empty text. -/
theorem Scan.eq_nil (scan : Scan pattern tail before [] found) : found = [] := by
  have texts := scan.text
  cases found with
  | nil => rfl
  | cons piece found =>
      have nothing : piece.text = [] := (List.append_eq_nil_iff.mp texts).1
      cases piece with
      | kept token => cases nothing
      | matched hit => exact absurd nothing (scan.some hit List.mem_cons_self)

/-- What a group captures is a part of its match. -/
theorem Scan.captured (scan : Scan pattern tail before after found)
    {hit : Match Token} (among : Piece.matched hit ∈ found) (index : Nat) :
    hit.captured index <:+: hit.text := by
  obtain ⟨earlier, later, first⟩ := scan.hit among
  obtain ⟨-, text, some, consumed⟩ := firstMatch_eq_some first
  have same : text = hit.text :=
    List.append_cancel_right (consumed.after.symm.trans rfl)
  unfold Match.captured
  cases captures : hit.groups.lookup index with
  | none => exact List.nil_infix
  | some part =>
      have member : (index, part) ∈ hit.groups := by
        obtain ⟨front, back, parts, -⟩ := List.lookup_eq_some_iff.mp captures
        simp [parts]
      rcases consumed.groups _ member with none | inside
      · cases none
      · exact same ▸ inside

/-- A text that is followed by another one, and then that one. -/
theorem Scan.append {second : List Token} {more : List (Piece Token)}
    (scan : Scan pattern second before after found)
    (goesOn : Scan pattern [] (after.reverse ++ before) second more) :
    Scan pattern [] before (after ++ second) (found ++ more) := by
  induction scan with
  | done => exact goesOn
  | keep absent scan inductionHypothesis =>
      rw [List.reverse_cons, List.append_assoc] at goesOn
      exact .keep (by simpa using absent) (inductionHypothesis goesOn)
  | found first scan inductionHypothesis =>
      rw [List.reverse_append, List.append_assoc] at goesOn
      rw [List.append_assoc]
      exact .found (by simpa using first) (inductionHypothesis goesOn)

/-- A scan of a text goes within its first part, or one of its matches reaches
from there into the second. -/
inductive Split (pattern : Regex Token) (before first second : List Token) :
    List (Piece Token) → Prop where
  | within {found more : List (Piece Token)}
      (scan : Scan pattern second before first found)
      (goesOn : Scan pattern [] (first.reverse ++ before) second more) :
      Split pattern before first second (found ++ more)
  | across {start begun reached rest : List Token} {groups : _}
      {found more : List (Piece Token)} (parts : first = start ++ begun)
      (partsToo : second = reached ++ rest) (leaves : begun ≠ [])
      (enters : reached ≠ [])
      (scan : Scan pattern (begun ++ second) before start found)
      (hit : firstMatch pattern
        { before := start.reverse ++ before, after := begun ++ second } =
          some
            { before := (begun ++ reached).reverse ++ (start.reverse ++ before)
              after := rest
              groups := groups })
      (goesOn : Scan pattern []
        ((begun ++ reached).reverse ++ (start.reverse ++ before)) rest more) :
      Split pattern before first second
        (found ++ .matched ⟨begun ++ reached, groups⟩ :: more)

theorem Split.keep {first second : List Token} {token : Token}
    (absent : firstMatch pattern
      { before := before, after := token :: (first ++ second) } = none)
    (split : Split pattern (token :: before) first second found) :
    Split pattern before (token :: first) second (.kept token :: found) := by
  cases split with
  | within scan goesOn =>
      refine @Split.within _ _ _ _ _ (.kept token :: _) _ (.keep absent scan) ?_
      rwa [List.reverse_cons, List.append_assoc]
  | @across start begun reached rest groups earlier more parts partsToo leaves
      enters scan hit goesOn =>
      subst parts partsToo
      have scanToo : Scan pattern (begun ++ (reached ++ rest)) before
          (token :: start) (.kept token :: earlier) :=
        .keep (by simpa using absent) scan
      have parts : token :: (start ++ begun) = (token :: start) ++ begun := rfl
      exact .across parts rfl leaves enters scanToo (by simpa using hit)
        (by simpa using goesOn)

theorem Split.hit {text first second groups : _}
    (hit : firstMatch pattern
      { before := before, after := text ++ (first ++ second) } =
        some
          { before := text.reverse ++ before
            after := first ++ second
            groups := groups })
    (split : Split pattern (text.reverse ++ before) first second found) :
    Split pattern before (text ++ first) second
      (.matched ⟨text, groups⟩ :: found) := by
  cases split with
  | within scan goesOn =>
      refine @Split.within _ _ _ _ _ (.matched ⟨text, groups⟩ :: _) _
        (.found (by simpa using hit) scan) ?_
      rwa [List.reverse_append, List.append_assoc]
  | @across start begun reached rest captures earlier more parts partsToo
      leaves enters scan hitToo goesOn =>
      subst parts partsToo
      have scanToo : Scan pattern (begun ++ (reached ++ rest)) before
          (text ++ start) (.matched ⟨text, groups⟩ :: earlier) :=
        .found (by simpa using hit) scan
      have parts : text ++ (start ++ begun) = (text ++ start) ++ begun :=
        (List.append_assoc ..).symm
      exact .across parts rfl leaves enters scanToo (by simpa using hitToo)
        (by simpa using goesOn)

theorem Scan.split {whole first second : List Token}
    (scan : Scan pattern [] before whole found)
    (parts : whole = first ++ second) :
    Split pattern before first second found := by
  induction scan generalizing first with
  | done =>
      obtain ⟨rfl, rfl⟩ := List.append_eq_nil_iff.mp parts.symm
      exact .within .done .done
  | @keep before rest token pieces absent scan inductionHypothesis =>
      cases first with
      | nil =>
          cases parts
          exact @Split.within _ _ _ _ _ [] _ .done (.keep absent scan)
      | cons head first =>
          cases parts
          exact .keep (by simpa using absent) (inductionHypothesis rfl)
  | @found before text rest groups pieces hit scan inductionHypothesis =>
      rcases List.append_eq_append_iff.mp parts with
        ⟨left, rfl, rfl⟩ | ⟨excess, rfl, rfl⟩
      · exact .hit (by simpa using hit) (inductionHypothesis rfl)
      · cases excess with
        | nil =>
            rw [List.append_nil] at hit scan ⊢
            have later := @inductionHypothesis [] rfl
            rw [List.append_nil] at later
            have whole : Split pattern before (first ++ []) ([] ++ rest)
                (.matched ⟨first, groups⟩ :: pieces) :=
              .hit (by simpa using hit) later
            rwa [List.append_nil] at whole
        | cons token excess =>
            cases first with
            | nil =>
                exact @Split.within _ _ _ _ _ [] _ .done (.found hit scan)
            | cons head first =>
                exact @Split.across _ _ _ _ _ [] _ _ _ _ [] _ rfl rfl
                  (List.cons_ne_nil _ _) (List.cons_ne_nil _ _) .done
                  (by simpa using hit) (by simpa using scan)

/-- What is found in a text is found in it within a longer one. -/
theorem Scan.within {accepts : Token → Prop} {second : List Token}
    (plain : Plain pattern) (ranges : Over accepts pattern)
    (apart : ∀ token ∈ second.head?, ¬ accepts token) (ahead : List Token)
    (scan : Scan pattern [] before after found) :
    Scan pattern second (before ++ ahead) after found := by
  induction scan with
  | done => exact .done
  | @keep before rest token pieces absent scan inductionHypothesis =>
      rw [List.append_nil] at absent
      refine .keep ?_ inductionHypothesis
      have same := @firstMatch_within _
        { before := before, after := token :: rest } _ _ ahead _ plain ranges
        apart
      rw [absent] at same
      exact same
  | @found before text rest groups pieces hit scan inductionHypothesis =>
      simp only [List.append_nil] at hit
      rw [List.append_assoc] at inductionHypothesis
      refine .found ?_ inductionHypothesis
      have same := @firstMatch_within _
        { before := before, after := text ++ rest } _ _ ahead _ plain ranges
        apart
      rw [hit] at same
      simpa [Cursor.within] using same

/-! ### A text that is cut in two -/

section Cuts

variable {accepts : Token → Prop} {first second : List Token} {token : Token}

/-- No match reaches from the first part of a text into the second when that
one begins with a token that the pattern doesn't accept. -/
theorem pieces_append (plain : Plain pattern) (ranges : Over accepts pattern)
    (apart : ∀ token ∈ second.head?, ¬ accepts token) :
    pieces pattern (first ++ second) =
      pieces pattern first ++ pieces pattern second := by
  have front := (scan_pieces pattern first).within plain ranges apart []
  have back := @Scan.within _ _ _ _ _ _ [] plain ranges (by simp)
    (first.reverse ++ []) (scan_pieces pattern second)
  exact (front.append back).eq_pieces

/-- A token that a pattern doesn't accept is not part of a match. -/
theorem pieces_cons (plain : Plain pattern) (ranges : Over accepts pattern)
    (alien : ¬ accepts token) :
    pieces pattern (token :: second) =
      .kept token :: pieces pattern second := by
  have back := @Scan.within _ _ _ _ _ _ [] plain ranges (by simp) [token]
    (scan_pieces pattern second)
  have absent : firstMatch pattern
      { before := [], after := token :: second ++ [] } = none := by
    rw [Option.eq_none_iff_forall_ne_some]
    intro stop first
    obtain ⟨head, text, some, consumed⟩ := firstMatch_eq_some first
    obtain ⟨tokens, consumedToo, accepted⟩ :=
      ranges.consumed (List.mem_of_head? head)
    have same : tokens = text := List.append_cancel_right
      (consumedToo.after.symm.trans consumed.after)
    cases text with
    | nil => exact some rfl
    | cons head text =>
        obtain ⟨rfl, -⟩ := List.cons.inj consumed.after
        exact alien (accepted token (by simp [same]))
  exact (Scan.keep absent back).eq_pieces

theorem pieces_cut (plain : Plain pattern) (ranges : Over accepts pattern)
    (alien : ¬ accepts token) :
    pieces pattern (first ++ token :: second) =
      pieces pattern first ++ .kept token :: pieces pattern second := by
  rw [pieces_append plain ranges (by simpa using alien),
    pieces_cons plain ranges alien]

/-- A text can be cut at a token that a pattern doesn't accept. -/
theorem sub_cut {replacement : Match Token → List Token}
    (plain : Plain pattern) (ranges : Over accepts pattern)
    (alien : ¬ accepts token) :
    sub pattern replacement (first ++ token :: second) =
      sub pattern replacement first ++
        token :: sub pattern replacement second := by
  unfold sub
  rw [pieces_cut plain ranges alien, List.flatMap_append, List.flatMap_cons]
  rfl

theorem finditer_cut (plain : Plain pattern) (ranges : Over accepts pattern)
    (alien : ¬ accepts token) :
    finditer pattern (first ++ token :: second) =
      finditer pattern first ++ finditer pattern second := by
  unfold finditer
  rw [pieces_cut plain ranges alien, List.filterMap_append]
  rfl

/-- No match reaches from the first part of a text into the second when the
first ends with a token that the pattern doesn't accept. -/
theorem sub_append_of_last {replacement : Match Token → List Token}
    (plain : Plain pattern) (ranges : Over accepts pattern)
    (apart : ∀ token ∈ first.getLast?, ¬ accepts token) :
    sub pattern replacement (first ++ second) =
      sub pattern replacement first ++ sub pattern replacement second := by
  rcases List.eq_nil_or_concat first with rfl | ⟨front, token, rfl⟩
  · rfl
  · have alien : ¬ accepts token := by
      apply apart
      simp
    rw [List.concat_eq_append, List.append_assoc, List.singleton_append,
      sub_cut plain ranges alien, sub_cut plain ranges alien]
    simp [sub, pieces, piecesFrom]

/-- No match reaches from the first part of a text into the second when that
one begins with a token that the pattern doesn't accept. -/
theorem sub_append_of_head {replacement : Match Token → List Token}
    (plain : Plain pattern) (ranges : Over accepts pattern)
    (apart : ∀ token ∈ second.head?, ¬ accepts token) :
    sub pattern replacement (first ++ second) =
      sub pattern replacement first ++ sub pattern replacement second := by
  unfold sub
  rw [pieces_append plain ranges apart, List.flatMap_append]

/-- A text without the tokens that a pattern needs has no matches. -/
theorem Scan.needless (needs : Needs accepts pattern)
    (scan : Scan pattern [] before after found)
    (absent : ∀ token ∈ after, ¬ accepts token) :
    found = after.map .kept := by
  induction scan with
  | done => rfl
  | keep none scan inductionHypothesis =>
      rw [inductionHypothesis fun token among =>
        absent token (List.mem_cons_of_mem _ among)]
      rfl
  | found hit scan inductionHypothesis =>
      obtain ⟨head, -⟩ := firstMatch_eq_some hit
      obtain ⟨text, consumed, token, among, accepted⟩ :=
        needs.consumed (List.mem_of_head? head)
      have inside := consumed.after
      simp only [List.append_nil] at inside
      refine absurd accepted (absent token ?_)
      rw [inside]
      exact List.mem_append_left _ among

/-- A text without the tokens that a pattern needs stays as it is. -/
theorem sub_of_needless {replacement : Match Token → List Token}
    (needs : Needs accepts pattern) {text : List Token}
    (absent : ∀ token ∈ text, ¬ accepts token) :
    sub pattern replacement text = text := by
  unfold sub
  rw [(scan_pieces pattern text).needless needs absent, List.flatMap_map]
  simp [Piece.replaced]

end Cuts

/-! ### What is left after a replacement -/

section Replacement

variable {replacement : Match Token → List Token} {text : List Token}
  {token : Token} {hit : Match Token}

@[simp] theorem mem_finditer :
    hit ∈ finditer pattern text ↔ .matched hit ∈ pieces pattern text := by
  unfold finditer
  rw [List.mem_filterMap]
  constructor
  · rintro ⟨piece, among, same⟩
    cases piece with
    | kept token => cases same
    | matched found =>
        cases same
        exact among
  · exact fun among => ⟨_, among, rfl⟩

/-- What no match covers stays as it is. -/
theorem flatMap_replaced_of_kept
    (kept : ∀ hit, Piece.matched hit ∉ found) :
    found.flatMap (Piece.replaced replacement) =
      found.flatMap Piece.text := by
  apply List.flatMap_congr
  intro piece among
  cases piece with
  | kept token => rfl
  | matched hit => exact absurd among (kept hit)

/-- A match is a part of the text. -/
theorem infix_of_matched (among : Piece.matched hit ∈ found) :
    hit.text <:+: found.flatMap Piece.text := by
  obtain ⟨front, back, rfl⟩ := List.append_of_mem among
  rw [List.flatMap_append, List.flatMap_cons]
  exact ⟨_, _, List.append_assoc ..⟩

/-- Where no match reaches, the beginning of a text stays. -/
theorem prefix_replaced {part rest : List Token}
    (texts : found.flatMap Piece.text = part ++ rest)
    (apart : ∀ hit, Piece.matched hit ∈ found →
      hit.text ≠ [] ∧ ∀ token ∈ part, token ∉ hit.text) :
    part <+: found.flatMap (Piece.replaced replacement) := by
  induction found generalizing part with
  | nil =>
      obtain ⟨rfl, -⟩ := List.append_eq_nil_iff.mp texts.symm
      exact List.nil_prefix
  | cons piece found inductionHypothesis =>
      cases part with
      | nil => exact List.nil_prefix
      | cons head part =>
          cases piece with
          | kept token =>
              obtain ⟨rfl, goesOn⟩ := List.cons.inj texts
              rw [List.flatMap_cons]
              apply (List.prefix_cons_inj token).mpr
              apply inductionHypothesis goesOn
              intro hit among
              obtain ⟨some, apart⟩ := apart hit (List.mem_cons_of_mem _ among)
              exact ⟨some, fun other member =>
                apart other (List.mem_cons_of_mem _ member)⟩
          | matched hit =>
              obtain ⟨some, apart⟩ := apart hit List.mem_cons_self
              obtain ⟨first, more, starts⟩ := List.exists_cons_of_ne_nil some
              have same : first = head := by
                rw [List.flatMap_cons] at texts
                simp only [Piece.text, starts] at texts
                exact (List.cons.inj texts).1
              exact absurd (by simp [starts, same]) (apart head (by simp))

/-- Where no match reaches, a part of a text stays. -/
theorem infix_replaced {start part rest : List Token} (some : part ≠ [])
    (texts : found.flatMap Piece.text = start ++ (part ++ rest))
    (apart : ∀ hit, Piece.matched hit ∈ found →
      hit.text ≠ [] ∧ ∀ token ∈ part, token ∉ hit.text) :
    part <:+: found.flatMap (Piece.replaced replacement) := by
  induction found generalizing start with
  | nil => simp_all
  | cons piece found inductionHypothesis =>
      have later : ∀ hit, Piece.matched hit ∈ found →
          hit.text ≠ [] ∧ ∀ token ∈ part, token ∉ hit.text :=
        fun hit among => apart hit (List.mem_cons_of_mem _ among)
      cases start with
      | nil =>
          rw [List.nil_append] at texts
          exact (prefix_replaced texts apart).isInfix
      | cons head start =>
          rw [List.flatMap_cons] at texts ⊢
          apply List.IsInfix.trans _ (List.suffix_append _ _).isInfix
          cases piece with
          | kept token =>
              exact inductionHypothesis (List.cons.inj texts).2 later
          | matched hit =>
              obtain ⟨-, apart⟩ := apart hit List.mem_cons_self
              rcases List.append_eq_append_iff.mp texts with
                ⟨left, -, goesOn⟩ | ⟨excess, inside, goesOn⟩
              · exact inductionHypothesis goesOn later
              · cases excess with
                | nil =>
                    exact @inductionHypothesis [] goesOn.symm later
                | cons token excess =>
                    obtain ⟨first, more, rfl⟩ :=
                      List.exists_cons_of_ne_nil some
                    obtain ⟨rfl, -⟩ := List.cons.inj goesOn
                    have reached : first ∈ hit.text := by
                      rw [show hit.text = _ from inside]
                      simp
                    exact absurd reached (apart first List.mem_cons_self)

/-- Where no match reaches, a part of a text stays. -/
theorem infix_sub {part : List Token} (some : part ≠ [])
    (within : part <:+: text)
    (apart : ∀ hit ∈ finditer pattern text, ∀ token ∈ part,
      token ∉ hit.text) :
    part <:+: sub pattern replacement text := by
  have scan := scan_pieces pattern text
  obtain ⟨start, rest, rfl⟩ := within
  apply infix_replaced some (scan.text.trans (List.append_assoc ..))
  exact fun hit among =>
    ⟨scan.some hit among, apart hit (mem_finditer.mpr among)⟩

/-- What is in a text with its matches replaced was there before or is in a
replacement. -/
theorem mem_sub (member : token ∈ sub pattern replacement text) :
    token ∈ text ∨
      ∃ hit ∈ finditer pattern text, token ∈ replacement hit := by
  obtain ⟨piece, among, there⟩ := List.mem_flatMap.mp member
  cases piece with
  | kept other =>
      rw [← (scan_pieces pattern text).text]
      exact .inl (List.mem_flatMap.mpr ⟨_, among, there⟩)
  | matched hit => exact .inr ⟨hit, mem_finditer.mpr among, there⟩

/-- A match is within its text. -/
theorem infix_of_mem_finditer (among : hit ∈ finditer pattern text) :
    hit.text <:+: text := by
  have within := infix_of_matched (mem_finditer.mp among)
  rwa [(scan_pieces pattern text).text] at within

/-- What a replacement leaves out of its match is not in the text any more,
when it was there once. -/
theorem not_mem_sub (unique : text.Nodup)
    (keeps : ∀ hit ∈ finditer pattern text, token ∈ replacement hit →
      token ∈ hit.text) (among : hit ∈ finditer pattern text)
    (inside : token ∈ hit.text) (left : token ∉ replacement hit) :
    token ∉ sub pattern replacement text := by
  obtain ⟨front, back, parts⟩ := List.append_of_mem (mem_finditer.mp among)
  have texts := (scan_pieces pattern text).text
  rw [parts, List.flatMap_append, List.flatMap_cons] at texts
  rw [← texts, List.nodup_append, List.nodup_append] at unique
  obtain ⟨-, ⟨-, -, apartLater⟩, apartEarlier⟩ := unique
  have stays : ∀ some ⊆ pieces pattern text,
      token ∈ some.flatMap (Piece.replaced replacement) →
        token ∈ some.flatMap Piece.text := by
    intro some among member
    obtain ⟨piece, here, there⟩ := List.mem_flatMap.mp member
    refine List.mem_flatMap.mpr ⟨piece, here, ?_⟩
    cases piece with
    | kept other => exact there
    | matched other =>
        exact keeps other (mem_finditer.mpr (among here)) there
  unfold sub
  rw [parts, List.flatMap_append, List.flatMap_cons]
  intro member
  rcases List.mem_append.mp member with early | member
  · apply apartEarlier token _ token (List.mem_append_left _ inside) rfl
    exact stays front (by simp [parts]) early
  · rcases List.mem_append.mp member with here | late
    · exact left here
    · apply apartLater token inside token _ rfl
      exact stays back (by simp [parts]) late

end Replacement

end Scanning

/-! ### The first match of a pattern -/

section First

variable {cursor stop : Cursor Token} {first second body : Regex Token}
  {steps : Token → List Token → Bool}

/-- A pattern without groups. -/
def Groupless : Regex Token → Prop
  | empty | one _ | assert _ => True
  | seq first second | alt first second => Groupless first ∧ Groupless second
  | star body | atomic body => Groupless body
  | group _ _ => False

/-- A pattern without groups captures nothing. -/
theorem Groupless.groups {pattern : Regex Token}
    (groupless : Groupless pattern) (member : stop ∈ run pattern cursor) :
    stop.groups = cursor.groups := by
  induction pattern generalizing cursor stop with
  | empty => rw [mem_run_empty.mp member]
  | one test =>
      obtain ⟨token, rest, -, -, rfl⟩ := mem_run_one.mp member
      rfl
  | assert holds =>
      obtain ⟨-, rfl⟩ := mem_run_assert.mp member
      rfl
  | seq first second firstHypothesis secondHypothesis =>
      obtain ⟨middle, begins, ends⟩ := mem_run_seq.mp member
      exact (secondHypothesis groupless.2 ends).trans
        (firstHypothesis groupless.1 begins)
  | alt first second firstHypothesis secondHypothesis =>
      rcases mem_run_alt.mp member with left | right
      · exact firstHypothesis groupless.1 left
      · exact secondHypothesis groupless.2 right
  | star body inductionHypothesis =>
      induction length : cursor.after.length using Nat.strong_induction_on
        generalizing cursor with
      | _ count shorterHypothesis =>
          rw [run_star] at member
          rcases List.mem_append.mp member with more | here
          · obtain ⟨middle, among, rest⟩ := List.mem_flatMap.mp more
            obtain ⟨round, shorter⟩ := List.mem_filter.mp among
            exact (shorterHypothesis _ (length ▸ of_decide_eq_true shorter)
              rest rfl).trans (inductionHypothesis groupless round)
          · rw [List.mem_singleton.mp here]
  | atomic body inductionHypothesis =>
      exact inductionHypothesis groupless (List.mem_of_mem_take member)
  | group index body inductionHypothesis => exact groupless.elim

/-- A group without groups in it captures its text and nothing else. -/
theorem Groupless.captures {pattern : Regex Token} {index : Nat}
    (groupless : Groupless pattern)
    (member : stop ∈ run (group index pattern) cursor) :
    ∃ text, cursor.after = text ++ stop.after ∧
      stop.groups = (index, text) :: cursor.groups := by
  obtain ⟨inner, among, rfl⟩ := mem_run_group.mp member
  obtain ⟨text, consumed⟩ := exists_consumed among
  refine ⟨text, consumed.after, ?_⟩
  rw [Cursor.textTo_of_append consumed.after, groupless.groups among]

/-- What three groups in a row capture is the text of a match, in its order. -/
theorem three_groups {first second third : Regex Token}
    (plain : Groupless first) (plainToo : Groupless second)
    (plainLast : Groupless third)
    (member : stop ∈ run
      (seq (group 1 first) (seq (group 2 second) (group 3 third))) cursor) :
    ∃ front value back,
      cursor.after = front ++ (value ++ (back ++ stop.after)) ∧
        stop.groups =
          (3, back) :: (2, value) :: (1, front) :: cursor.groups := by
  obtain ⟨begun, begins, member⟩ := mem_run_seq.mp member
  obtain ⟨middle, goesOn, ends⟩ := mem_run_seq.mp member
  obtain ⟨front, starts, captured⟩ := plain.captures begins
  obtain ⟨value, follows, capturedToo⟩ := plainToo.captures goesOn
  obtain ⟨back, lasts, capturedLast⟩ := plainLast.captures ends
  refine ⟨front, value, back, ?_, ?_⟩
  · rw [starts, follows, lasts]
  · rw [capturedLast, capturedToo, captured]

/-- The first match of a sequence goes on from a match of its first part with
the first one of its second. -/
theorem head?_run_seq (head : (run (seq first second) cursor).head? =
      some stop) :
    ∃ middle ∈ run first cursor, (run second middle).head? = some stop := by
  rw [run] at head
  generalize run first cursor = middles at head ⊢
  induction middles with
  | nil => cases head
  | cons middle others inductionHypothesis =>
      rw [List.flatMap_cons, List.head?_append] at head
      cases here : (run second middle).head? with
      | none =>
          rw [here, Option.none_or] at head
          obtain ⟨other, among, found⟩ := inductionHypothesis head
          exact ⟨other, List.mem_cons_of_mem _ among, found⟩
      | some found =>
          rw [here, Option.some_or] at head
          exact ⟨middle, List.mem_cons_self, here.trans head⟩

/-- The first match of a sequence whose second part always matches. -/
theorem head?_run_seq_of_total (total : ∀ middle, run second middle ≠ []) :
    (run (seq first second) cursor).head? =
      (run first cursor).head?.bind fun middle =>
        (run second middle).head? := by
  rw [run]
  cases run first cursor with
  | nil => rfl
  | cons middle others =>
      rw [List.flatMap_cons, List.head?_append_of_ne_nil _ (total middle)]
      rfl

theorem head?_run_group (index : Nat) :
    (run (group index body) cursor).head? = (run body cursor).head?.map
      fun stop =>
        { stop with groups := (index, cursor.textTo stop) :: stop.groups } :=
  List.head?_map

/-- A pattern consumes one token where a test passes on it and what follows,
and nothing else matches it. -/
def Steps (steps : Token → List Token → Bool) (body : Regex Token) : Prop :=
  ∀ cursor : Cursor Token, run body cursor =
    match cursor.after with
    | [] => []
    | token :: rest => if steps token rest then [cursor.past [token] rest] else []

private theorem steps_one (test : Token → Bool) :
    Steps (fun token _ => test token) (one test) := by
  rintro ⟨before, after, groups⟩
  cases after with
  | nil => rfl
  | cons token rest => rfl

/-- The first match of a repetition goes on as long as it can. -/
theorem Steps.head?_star (does : Steps steps body) (cursor : Cursor Token) :
    ∃ text rest, cursor.after = text ++ rest ∧
      (run (star body) cursor).head? = some (cursor.past text rest) ∧
      ∀ token more, rest = token :: more → steps token more = false := by
  obtain ⟨before, after, groups⟩ := cursor
  induction after generalizing before with
  | nil =>
      refine ⟨[], [], rfl, ?_, nofun⟩
      rw [run_star, does]
      rfl
  | cons token after inductionHypothesis =>
      cases goesOn : steps token after with
      | false =>
          refine ⟨[], token :: after, rfl, ?_, ?_⟩
          · rw [run_star, does]
            simp [goesOn, Cursor.past]
          · rintro _ _ ⟨⟩
            exact goesOn
      | true =>
          obtain ⟨text, rest, parts, head, ends⟩ :=
            inductionHypothesis (token :: before)
          refine ⟨token :: text, rest, by simp_all, ?_, ends⟩
          have shorter : ((run body ⟨before, token :: after, groups⟩).filter
                fun next => next.after.length < (token :: after).length) =
              [⟨token :: before, after, groups⟩] := by
            rw [does]
            simp [goesOn, Cursor.past]
          rw [run_star, shorter, List.flatMap_singleton, List.head?_append,
            head, Option.some_or]
          simp [Cursor.past]

/-- The first match of one or more goes on as long as it can. -/
theorem Steps.head?_plus (does : Steps steps body)
    (head : (run (plus body) cursor).head? = some stop) :
    ∃ text rest, text ≠ [] ∧ cursor.after = text ++ rest ∧
      stop = cursor.past text rest ∧
      ∀ token more, rest = token :: more → steps token more = false := by
  obtain ⟨middle, once, more⟩ := head?_run_seq head
  rw [does] at once
  cases after : cursor.after with
  | nil =>
      rw [after] at once
      cases once
  | cons token tail =>
      rw [after] at once
      dsimp only at once
      split at once
      · cases List.mem_singleton.mp once
        obtain ⟨text, rest, parts, first, ends⟩ :=
          does.head?_star (cursor.past [token] tail)
        refine ⟨token :: text, rest, List.cons_ne_nil _ _, ?_, ?_, ends⟩
        · rw [List.cons_append, ← parts]
          rfl
        · rw [Option.some.inj (more.symm.trans first)]
          exact Cursor.past_past cursor [token] text rest tail
      · cases once

/-- The first match of one or more tokens of a class is all that there are. -/
theorem head?_run_plusOne {test : Token → Bool}
    (head : (run (plus (one test)) cursor).head? = some stop) :
    ∃ text rest, text ≠ [] ∧ cursor.after = text ++ rest ∧
      stop = cursor.past text rest ∧ (∀ token ∈ text, test token = true) ∧
      ∀ token ∈ rest.head?, test token = false := by
  obtain ⟨text, rest, some, parts, same, ends⟩ :=
    (steps_one test).head?_plus head
  obtain ⟨other, left, partsToo, -, all, sameToo⟩ :=
    mem_run_plusOne.mp (List.mem_of_head? head)
  have equal : rest = left := by
    have after := congrArg Cursor.after (same.symm.trans sameToo)
    exact after
  subst equal
  cases List.append_cancel_right (parts.symm.trans partsToo)
  refine ⟨text, rest, some, parts, same, all, fun token among => ?_⟩
  obtain ⟨more, rfl⟩ := List.head?_eq_some_iff.mp among
  exact ends token more rfl

/-- The first match of what may be left out is one of it, if there is any. -/
theorem head?_run_opt :
    (run (opt body) cursor).head? =
      (run body cursor).head?.or (some cursor) := by
  rw [opt, run, List.head?_append]
  rfl

theorem run_opt_ne_nil : run (opt body) cursor ≠ [] := by
  rw [opt, run]
  exact List.append_ne_nil_of_right_ne_nil _ (List.cons_ne_nil _ _)

end First

/-! ### Patterns over traced letters -/

section Naturality

variable {Other : Type v}

/-- A pattern for tokens that are read in another way. -/
def comap (read : Other → Token) : Regex Token → Regex Other
  | empty => empty
  | one test => one fun token => test (read token)
  | assert holds =>
      assert fun before after => holds (before.map read) (after.map read)
  | seq first second => seq (comap read first) (comap read second)
  | alt first second => alt (comap read first) (comap read second)
  | star body => star (comap read body)
  | atomic body => atomic (comap read body)
  | group index body => group index (comap read body)

theorem Over.comap {accepts : Token → Prop} {pattern : Regex Token}
    (ranges : Over accepts pattern) (read : Other → Token) :
    Over (fun token => accepts (read token)) (comap read pattern) := by
  induction pattern with
  | empty => trivial
  | one test => exact fun token => ranges (read token)
  | assert holds => trivial
  | seq first second firstHypothesis secondHypothesis =>
      exact ⟨firstHypothesis ranges.1, secondHypothesis ranges.2⟩
  | alt first second firstHypothesis secondHypothesis =>
      exact ⟨firstHypothesis ranges.1, secondHypothesis ranges.2⟩
  | star body inductionHypothesis => exact inductionHypothesis ranges
  | atomic body inductionHypothesis => exact inductionHypothesis ranges
  | group index body inductionHypothesis => exact inductionHypothesis ranges

theorem Needs.comap {accepts : Token → Prop} {pattern : Regex Token}
    (needs : Needs accepts pattern) (read : Other → Token) :
    Needs (fun token => accepts (read token)) (comap read pattern) := by
  induction pattern with
  | empty => exact needs
  | one test => exact fun token => needs (read token)
  | assert holds => exact needs
  | seq first second firstHypothesis secondHypothesis =>
      exact needs.imp firstHypothesis secondHypothesis
  | alt first second firstHypothesis secondHypothesis =>
      exact ⟨firstHypothesis needs.1, secondHypothesis needs.2⟩
  | star body inductionHypothesis => exact needs
  | atomic body inductionHypothesis => exact inductionHypothesis needs
  | group index body inductionHypothesis => exact inductionHypothesis needs

theorem Plain.comap {pattern : Regex Token} (plain : Plain pattern)
    (read : Other → Token) : Plain (comap read pattern) := by
  induction pattern with
  | empty => trivial
  | one test => trivial
  | assert holds => exact plain
  | seq first second firstHypothesis secondHypothesis =>
      exact ⟨firstHypothesis plain.1, secondHypothesis plain.2⟩
  | alt first second firstHypothesis secondHypothesis =>
      exact ⟨firstHypothesis plain.1, secondHypothesis plain.2⟩
  | star body inductionHypothesis => exact inductionHypothesis plain
  | atomic body inductionHypothesis => exact inductionHypothesis plain
  | group index body inductionHypothesis => exact inductionHypothesis plain

theorem Groupless.comap {pattern : Regex Token}
    (groupless : Groupless pattern) (read : Other → Token) :
    Groupless (comap read pattern) := by
  induction pattern with
  | empty => trivial
  | one test => trivial
  | assert holds => trivial
  | seq first second firstHypothesis secondHypothesis =>
      exact ⟨firstHypothesis groupless.1, secondHypothesis groupless.2⟩
  | alt first second firstHypothesis secondHypothesis =>
      exact ⟨firstHypothesis groupless.1, secondHypothesis groupless.2⟩
  | star body inductionHypothesis => exact inductionHypothesis groupless
  | atomic body inductionHypothesis => exact inductionHypothesis groupless
  | group index body inductionHypothesis => exact groupless

/-- A place in a text whose tokens are read in another way. -/
def Cursor.map (read : Other → Token) (cursor : Cursor Other) :
    Cursor Token where
  before := cursor.before.map read
  after := cursor.after.map read
  groups := cursor.groups.map fun entry => (entry.1, entry.2.map read)

def Match.map (read : Other → Token) (found : Match Other) : Match Token where
  text := found.text.map read
  groups := found.groups.map fun entry => (entry.1, entry.2.map read)

variable {read : Other → Token}

theorem captured_map (found : Match Other) (index : Nat) :
    (found.map read).captured index = (found.captured index).map read := by
  obtain ⟨text, groups⟩ := found
  unfold Match.captured Match.map
  dsimp only
  induction groups with
  | nil => rfl
  | cons entry groups inductionHypothesis =>
      rw [List.map_cons, List.lookup_cons, List.lookup_cons]
      cases index == entry.1 with
      | false => exact inductionHypothesis
      | true => rfl

private theorem run_star_map {body : Regex Token}
    (one : ∀ cursor : Cursor Other, (run (comap read body) cursor).map
      (Cursor.map read) = run body (cursor.map read))
    (cursor : Cursor Other) :
    (run (star (comap read body)) cursor).map (Cursor.map read) =
      run (star body) (cursor.map read) := by
  induction length : cursor.after.length using Nat.strong_induction_on
    generalizing cursor with
  | _ count inductionHypothesis =>
      have fewer : ((run body (cursor.map read)).filter fun next =>
            next.after.length < (cursor.map read).after.length) =
          ((run (comap read body) cursor).filter fun next =>
            next.after.length < cursor.after.length).map
              (Cursor.map read) := by
        rw [← one, List.filter_map]
        congr 1
        apply List.filter_congr
        intro next _
        simp [Cursor.map]
      rw [run_star, run_star, fewer, List.map_append, List.map_singleton,
        List.flatMap_map, List.map_flatMap]
      congr 1
      apply List.flatMap_congr
      intro next among
      have shorter := of_decide_eq_true (List.mem_filter.mp among).2
      exact inductionHypothesis _ (length ▸ shorter) _ rfl

/-- How tokens are read makes no difference to what is matched. -/
theorem run_map (pattern : Regex Token) (cursor : Cursor Other) :
    (run (comap read pattern) cursor).map (Cursor.map read) =
      run pattern (cursor.map read) := by
  induction pattern generalizing cursor with
  | empty => rfl
  | one test =>
      obtain ⟨before, after, groups⟩ := cursor
      cases after with
      | nil => rfl
      | cons token rest =>
          by_cases passes : test (read token)
          · simp [run, comap, Cursor.map, Cursor.past, passes]
          · simp [run, comap, Cursor.map, passes]
  | assert holds =>
      by_cases held : holds (cursor.before.map read) (cursor.after.map read)
      · simp [run, comap, Cursor.map, held]
      · simp [run, comap, Cursor.map, held]
  | seq first second firstHypothesis secondHypothesis =>
      simp only [run, comap, List.map_flatMap, secondHypothesis,
        ← firstHypothesis, List.flatMap_map]
  | alt first second firstHypothesis secondHypothesis =>
      simp only [run, comap, List.map_append, firstHypothesis,
        secondHypothesis]
  | star body inductionHypothesis =>
      exact run_star_map inductionHypothesis cursor
  | atomic body inductionHypothesis =>
      simp only [run, comap, List.map_take, inductionHypothesis]
  | group index body inductionHypothesis =>
      simp only [run, comap, ← inductionHypothesis, List.map_map]
      apply List.map_congr_left
      intro inner _
      simp [Cursor.map, Cursor.textTo]

private theorem firstMatch_map (pattern : Regex Token) (cursor : Cursor Other) :
    (firstMatch (comap read pattern) cursor).map (Cursor.map read) =
      firstMatch pattern (cursor.map read) := by
  unfold firstMatch
  have same := @run_map _ _ read pattern { cursor with groups := [] }
  rw [show ({ cursor.map read with groups := [] } : Cursor Token) =
    ({ cursor with groups := [] } : Cursor Other).map read from rfl, ← same,
    List.head?_map]
  cases (run (comap read pattern) { cursor with groups := [] }).head? with
  | none => rfl
  | some stop =>
      by_cases shorter : stop.after.length < cursor.after.length
      · simp [Option.filter, Cursor.map, shorter]
      · simp [Option.filter, Cursor.map, shorter]

def Piece.map (read : Other → Token) : Piece Other → Piece Token
  | kept token => kept (read token)
  | matched found => matched (found.map read)

theorem Scan.map {pattern : Regex Token} {before after : List Other}
    {found : List (Piece Other)}
    (scan : Scan (comap read pattern) [] before after found) :
    Scan pattern [] (before.map read) (after.map read)
      (found.map (Piece.map read)) := by
  induction scan with
  | done => exact .done
  | @keep before rest token pieces absent scan inductionHypothesis =>
      refine .keep ?_ inductionHypothesis
      have same := @firstMatch_map _ _ read pattern
        { before := before, after := token :: rest ++ [] }
      rw [absent] at same
      simpa [Cursor.map] using same.symm
  | @found before text rest groups pieces hit scan inductionHypothesis =>
      rw [List.map_append, List.map_reverse] at inductionHypothesis
      rw [List.map_append]
      refine .found ?_ inductionHypothesis
      have same := @firstMatch_map _ _ read pattern
        { before := before, after := text ++ rest ++ [] }
      rw [hit] at same
      simpa [Cursor.map] using same.symm

theorem comap_comap {Source : Type u} (first : Source → Other)
    (pattern : Regex Token) :
    comap first (comap read pattern) =
      comap (fun token => read (first token)) pattern := by
  induction pattern with
  | empty => rfl
  | one test => rfl
  | assert holds => simp [comap, Function.comp_def]
  | seq left right leftHypothesis rightHypothesis =>
      simp [comap, leftHypothesis, rightHypothesis]
  | alt left right leftHypothesis rightHypothesis =>
      simp [comap, leftHypothesis, rightHypothesis]
  | star body inductionHypothesis => simp [comap, inductionHypothesis]
  | atomic body inductionHypothesis => simp [comap, inductionHypothesis]
  | group index body inductionHypothesis => simp [comap, inductionHypothesis]

private theorem pieces_map (pattern : Regex Token) (text : List Other) :
    (pieces (comap read pattern) text).map (Piece.map read) =
      pieces pattern (text.map read) :=
  ((scan_pieces (comap read pattern) text).map).eq_pieces.symm

/-- How tokens are read makes no difference to what is replaced. -/
theorem sub_map {pattern : Regex Token}
    {replacement : Match Other → List Other}
    {replacementToo : Match Token → List Token}
    (same : ∀ hit, (replacement hit).map read =
      replacementToo (hit.map read)) (text : List Other) :
    (sub (comap read pattern) replacement text).map read =
      sub pattern replacementToo (text.map read) := by
  unfold sub
  rw [← pieces_map, List.map_flatMap, List.flatMap_map]
  apply List.flatMap_congr
  intro piece _
  cases piece with
  | kept token => rfl
  | matched hit => exact same hit

end Naturality

end Regex
