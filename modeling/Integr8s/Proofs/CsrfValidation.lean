/-
Module: Integr8s.Proofs.CsrfValidation
Purpose: When the CSRF check of a request goes by the token as it should: it
  returns the token exactly if it was issued for the session, and refuses all
  others, unless a header and a cookie with characters beyond ASCII reach the
  comparison.
Trusted boundary: none
Main exports: CsrfValidation.Signer, CsrfValidation.Issued,
  CsrfValidation.Unforged, CsrfValidation.validates_iff
-/
import Integr8s.Services.Security

namespace Integr8s.CsrfValidation

open SecurityService

/-- The characters of a text are ASCII. -/
def IsAscii (text : String) : Prop := text.toList.all Char.isAscii = true

instance (text : String) : Decidable (IsAscii text) :=
  inferInstanceAs (Decidable (_ = true))

/-- The digests under a secret key. -/
structure Signer where
  hmac : String → String
  hex : ∀ message, IsAscii (hmac message)

/-- A nonce as it is drawn: base64 digits that a URL can have. -/
def UrlSafe (nonce : String) : Prop :=
  (nonce.toList.all fun c => c.isAlphanum || c == '-' || c == '_') = true

/-- One token that was generated: its nonce and its session. -/
structure Issue where
  nonce : String
  sessionId : String
  urlSafe : UrlSafe nonce
  noColon : ':' ∉ sessionId.toList

/-- The text that is signed for a token. -/
def Issue.message (issue : Issue) : String :=
  issue.nonce ++ ":" ++ issue.sessionId

section Tokens

variable (signer : Signer) (issued : List Issue)

/-- A token was issued for a session. -/
def IsIssued (token sessionId : String) : Prop :=
  ∃ issue ∈ issued, issue.sessionId = sessionId ∧
    token = generateCsrfToken signer.hmac issue.nonce sessionId

/-- No digest is in a text, after a dot, but of a message that was signed: what
those can send who don't have the key. -/
def Unforged (text : String) : Prop :=
  ∀ before message, text = before ++ "." ++ signer.hmac message →
    message ∈ issued.map Issue.message

end Tokens

/-- A request that has to show a token: one that isn't safe, to an API path
that isn't exempt, with the session of its access token. -/
structure Guarded (request : Request) (sessionId : String) : Prop where
  changes : request.method ∉ ["GET", "HEAD", "OPTIONS"]
  notExempt : request.path ∉ csrfExemptPaths
  api : "/api/".toList <+: request.path.toList
  carries : request.cookies "access_token" = some sessionId
  session : sessionId ≠ ""

/-- The token in the header; none is empty. -/
def headerToken (request : Request) : String :=
  (request.headers "X-CSRF-Token").getD ""

def cookieToken (request : Request) : String :=
  (request.cookies "csrf_token").getD ""

/-- The check returns the token of the header exactly if it is the cookie's and
was issued for the session, and refuses the request in every other case. -/
structure Validates (signer : Signer) (issued : List Issue)
    (request : Request) (sessionId : String) : Prop where
  returns : ∀ token,
    validateCsrfFromRequest signer.hmac request = .ok token ↔
      request.headers "X-CSRF-Token" = some token ∧
      request.cookies "csrf_token" = some token ∧
      IsIssued signer issued token sessionId
  refuses :
    (∃ token, validateCsrfFromRequest signer.hmac request = .ok token) ∨
    ∃ reason, validateCsrfFromRequest signer.hmac request =
      .error (.csrfValidationError reason)

/-! ### Tokens and their parts -/

section Parts

variable {signer : Signer} {issued : List Issue}

theorem UrlSafe.notMem {nonce : String} (safe : UrlSafe nonce) {c : Char}
    (other : (c.isAlphanum || c == '-' || c == '_') = false) :
    c ∉ nonce.toList := by
  intro member
  rw [List.all_eq_true.mp safe c member] at other
  cases other

theorem compareDigest_ascii {first second : String} (one : IsAscii first)
    (two : IsAscii second) :
    compareDigest first second = .ok (first == second) := by
  rw [compareDigest, one, two]
  rfl

private theorem generateCsrfToken_toList (hmac : String → String)
    (nonce sessionId : String) :
    (generateCsrfToken hmac nonce sessionId).toList =
      nonce.toList ++ '.' :: (signCsrf hmac nonce sessionId).toList := by
  simp [generateCsrfToken]

/-- The nonce and the session of what is signed are known from its last
colon. -/
theorem message_inj {issue : Issue} {nonce sessionId : String}
    (noColon : ':' ∉ sessionId.toList)
    (same : issue.message = nonce ++ ":" ++ sessionId) :
    issue.nonce = nonce ∧ issue.sessionId = sessionId := by
  have texts : issue.sessionId.toList.reverse ++
        ':' :: issue.nonce.toList.reverse =
      sessionId.toList.reverse ++ ':' :: nonce.toList.reverse := by
    simpa [Issue.message] using
      congrArg (fun text => text.toList.reverse) same
  obtain ⟨sessions, nonces⟩ := PyText.append_separator_inj
    (by simpa using issue.noColon) (by simpa using noColon) texts
  exact ⟨String.toList_inj.mp (List.reverse_injective nonces),
    String.toList_inj.mp (List.reverse_injective sessions)⟩

/-- The signature of an ASCII token is right exactly if the token was issued
for the session. -/
theorem verify_iff {token sessionId : String} (ascii : IsAscii token)
    (unforged : Unforged signer issued token)
    (noColon : ':' ∉ sessionId.toList) :
    ∃ valid, verifyCsrfSignature signer.hmac token sessionId = .ok valid ∧
      (valid = true ↔ IsIssued signer issued token sessionId) := by
  by_cases dotted : '.' ∈ token.toList
  · obtain ⟨before, after, parts, undotted⟩ :=
      List.eq_append_cons_of_mem dotted
    have ascii_after : IsAscii (String.ofList after) := by
      rw [IsAscii, parts, List.all_append, List.all_cons] at ascii
      simp_all [IsAscii]
    have checks : verifyCsrfSignature signer.hmac token sessionId =
        .ok (String.ofList after ==
          signCsrf signer.hmac (String.ofList before) sessionId) := by
      rw [verifyCsrfSignature, parts, PyText.partition_append undotted]
      exact compareDigest_ascii ascii_after (signer.hex _)
    refine ⟨_, checks, ?_⟩
    rw [beq_iff_eq]
    constructor
    · intro signed
      have written : token = String.ofList before ++ "." ++
          signer.hmac (String.ofList before ++ ":" ++ sessionId) := by
        change token = String.ofList before ++ "." ++
          signCsrf signer.hmac (String.ofList before) sessionId
        apply String.toList_inj.mp
        rw [parts, ← signed]
        simp
      obtain ⟨issue, member, same⟩ :=
        List.mem_map.mp (unforged _ _ written)
      obtain ⟨nonces, sessions⟩ := message_inj noColon same
      refine ⟨issue, member, sessions, ?_⟩
      rw [written, nonces, generateCsrfToken, signCsrf]
    · rintro ⟨issue, -, -, rfl⟩
      rw [generateCsrfToken_toList] at parts
      obtain ⟨rfl, rfl⟩ := PyText.append_separator_inj
        (issue.urlSafe.notMem (by decide)) undotted parts
      simp
  · rw [verifyCsrfSignature, PyText.partition_of_notMem dotted]
    refine ⟨false, rfl, ?_⟩
    simp only [Bool.false_eq_true, false_iff]
    rintro ⟨issue, -, -, rfl⟩
    rw [generateCsrfToken_toList] at dotted
    simp at dotted

end Parts

/-! ### The check of a request -/

section Check

variable {signer : Signer} {issued : List Issue} {request : Request}
  {sessionId : String}

/-- A request that has to show a token goes through the checks of it. -/
theorem validate_guarded (signer : Signer)
    (guarded : Guarded request sessionId) :
    validateCsrfFromRequest signer.hmac request =
      if headerToken request = "" then
        .error (.csrfValidationError
          "CSRF token missing from X-CSRF-Token header")
      else (do
        let same ←
          validateCsrfToken (headerToken request) (cookieToken request)
        if !same then
          throw (.csrfValidationError
            "CSRF token invalid or does not match cookie")
        else
          let valid ←
            verifyCsrfSignature signer.hmac (headerToken request) sessionId
          if !valid then
            throw (.csrfValidationError "CSRF token signature invalid")
          else pure (headerToken request)) := by
  rw [validateCsrfFromRequest, if_neg guarded.changes,
    if_neg guarded.notExempt, if_neg (not_not.mpr guarded.api)]
  simp only [guarded.carries, Option.getD_some]
  rw [if_neg guarded.session]
  rfl

/-- A token that was issued is not empty. -/
theorem IsIssued.ne_empty {token : String}
    (isIssued : IsIssued signer issued token sessionId) : token ≠ "" := by
  obtain ⟨issue, -, -, rfl⟩ := isIssued
  intro empty
  simpa [empty] using generateCsrfToken_toList signer.hmac issue.nonce sessionId

/-- A refusal is right when the header's token isn't the cookie's or wasn't
issued. -/
theorem Validates.of_refused {reason : String}
    (refused : validateCsrfFromRequest signer.hmac request =
      .error (.csrfValidationError reason))
    (wrong : headerToken request = cookieToken request →
      ¬ IsIssued signer issued (headerToken request) sessionId) :
    Validates signer issued request sessionId where
  returns := by
    intro token
    rw [refused]
    simp only [reduceCtorEq, false_iff]
    rintro ⟨header, cookie, isIssued⟩
    apply wrong
    · rw [headerToken, header, cookieToken, cookie]
    · rwa [headerToken, header]
  refuses := .inr ⟨reason, refused⟩

/-- A token that is not empty is there, and the same one twice. -/
theorem tokens_of_same (given : headerToken request ≠ "")
    (same : headerToken request = cookieToken request) :
    request.headers "X-CSRF-Token" = some (headerToken request) ∧
      request.cookies "csrf_token" = some (headerToken request) := by
  have kept (text : Option String) (some_text : text.getD "" ≠ "") :
      text = some (text.getD "") := by
    cases text with
    | none => exact absurd rfl some_text
    | some text => rfl
  refine ⟨kept _ given, ?_⟩
  rw [same] at given ⊢
  exact kept _ given

/-- What the check returns for a token in ASCII that is in the header and in
the cookie. -/
theorem Validates.of_same (guarded : Guarded request sessionId)
    (noColon : ':' ∉ sessionId.toList)
    (unforged : Unforged signer issued (headerToken request))
    (given : headerToken request ≠ "")
    (ascii : IsAscii (headerToken request))
    (same : headerToken request = cookieToken request) :
    Validates signer issued request sessionId := by
  obtain ⟨valid, checked, valid_iff⟩ := verify_iff ascii unforged noColon
  have passes : validateCsrfToken (headerToken request) (cookieToken request) =
      .ok true := by
    rw [validateCsrfToken, ← same, if_neg (by simpa using given),
      compareDigest_ascii ascii ascii, beq_self_eq_true]
  have result := validate_guarded signer guarded
  cases valid with
  | false =>
      rw [if_neg given, passes, checked] at result
      exact .of_refused result fun _ => mt valid_iff.mpr nofun
  | true =>
      rw [if_neg given, passes, checked] at result
      obtain ⟨header, cookie⟩ := tokens_of_same given same
      constructor
      · intro token
        rw [result, header, cookie]
        constructor
        · rintro ⟨⟩
          exact ⟨rfl, rfl, valid_iff.mp rfl⟩
        · rintro ⟨⟨⟩, -, -⟩
          rfl
      · exact .inl ⟨_, result⟩

end Check

/-- A request that has to show a token is answered as it should be, the token
returned exactly if it is the cookie's and was issued for the session and
everything else refused, if and only if the header or the cookie is missing or
empty or both are ASCII. -/
theorem validates_iff (signer : Signer) (issued : List Issue)
    (request : Request) (sessionId : String)
    (guarded : Guarded request sessionId) (noColon : ':' ∉ sessionId.toList)
    (unforged : Unforged signer issued (headerToken request)) :
    Validates signer issued request sessionId ↔
      headerToken request = "" ∨ cookieToken request = "" ∨
        IsAscii (headerToken request) ∧ IsAscii (cookieToken request) := by
  have result := validate_guarded signer guarded
  constructor
  · intro validates
    by_contra neither
    push Not at neither
    obtain ⟨given, kept, unlike⟩ := neither
    have raises : validateCsrfToken (headerToken request)
        (cookieToken request) = .error .typeError := by
      rw [validateCsrfToken, if_neg (by simp [given, kept]), compareDigest,
        if_neg]
      simpa [IsAscii] using unlike
    rw [if_neg given, raises] at result
    obtain ⟨token, returned⟩ | ⟨reason, refused⟩ := validates.refuses
    · cases result.symm.trans returned
    · cases result.symm.trans refused
  · intro comparable
    by_cases missing : headerToken request = ""
    · rw [if_pos missing] at result
      exact .of_refused result fun _ isIssued => isIssued.ne_empty missing
    · by_cases same : headerToken request = cookieToken request
      · have ascii : IsAscii (headerToken request) := by
          rcases comparable with empty | empty | ⟨ascii, -⟩
          · exact absurd empty missing
          · exact absurd (same.trans empty) missing
          · exact ascii
        exact .of_same guarded noColon unforged missing ascii same
      · have differs : validateCsrfToken (headerToken request)
            (cookieToken request) = .ok false := by
          rw [validateCsrfToken]
          split
          · rfl
          · case isFalse given =>
              obtain ⟨-, cookie⟩ := not_or.mp given
              obtain ⟨ascii, kept⟩ :=
                (comparable.resolve_left missing).resolve_left cookie
              rw [compareDigest_ascii ascii kept, beq_false_of_ne same]
        rw [if_neg missing, differs] at result
        exact .of_refused result fun equal => absurd equal same

/-! ### Two requests -/

/-- The digest of one message that was signed, and that of the others. -/
def oneDigest : Signer where
  hmac message := String.ofList
    (List.replicate 64 (if message = "n:s" then 'a' else '0'))
  hex message := by
    by_cases signed : message = "n:s"
    · rw [if_pos signed]
      decide
    · rw [if_neg signed]
      decide

/-- The token that was generated for the session `s`. -/
def oneIssue : Issue where
  nonce := "n"
  sessionId := "s"
  urlSafe := rfl
  noColon := by decide

/-- A request of the session `s` with a token. -/
def withToken (token : String) : Request where
  method := "POST"
  path := "/api/v1/execute"
  headers name := if name = "X-CSRF-Token" then some token else none
  cookies name :=
    if name = "access_token" then some "s"
    else if name = "csrf_token" then some token else none

private theorem withToken_guarded (token : String) :
    Guarded (withToken token) "s" where
  changes := (by decide : "POST" ∉ ["GET", "HEAD", "OPTIONS"])
  notExempt := (by decide : "/api/v1/execute" ∉ csrfExemptPaths)
  api := (by decide : "/api/".toList <+: "/api/v1/execute".toList)
  carries := rfl
  session := by decide

/-- The token of the session is not forged. -/
theorem oneIssue_unforged :
    Unforged oneDigest [oneIssue] (generateCsrfToken oneDigest.hmac "n" "s") := by
  intro before message text
  by_cases signed : message = "n:s"
  · rw [signed]
    decide
  · have last := congrArg (fun text => text.toList.getLast?) text
    simp [generateCsrfToken, signCsrf, oneDigest, signed] at last

/-- The token of the session is returned. -/
theorem validates_iff_issued :
    validateCsrfFromRequest oneDigest.hmac
        (withToken (generateCsrfToken oneDigest.hmac "n" "s")) =
      .ok (generateCsrfToken oneDigest.hmac "n" "s") :=
  ((validates_iff oneDigest [oneIssue] _ "s" (withToken_guarded _)
    (by decide) oneIssue_unforged).mpr (.inr (.inr (by decide)))).returns
      _ |>.mpr ⟨rfl, rfl, oneIssue, by simp, rfl, rfl⟩

/-- A header and a cookie with a letter beyond ASCII raise an error that is no
refusal. -/
theorem accent_raises :
    Guarded (withToken "é") "s" ∧
    Unforged oneDigest [] (headerToken (withToken "é")) ∧
    validateCsrfFromRequest oneDigest.hmac (withToken "é") =
      .error .typeError ∧
    ¬ Validates oneDigest [] (withToken "é") "s" := by
  have raises : validateCsrfFromRequest oneDigest.hmac (withToken "é") =
      .error .typeError := rfl
  refine ⟨withToken_guarded _, ?_, raises, fun validates => ?_⟩
  · intro before message text
    have size := congrArg (fun text => text.toList.length) text
    simp [oneDigest, headerToken, withToken] at size
  · obtain ⟨token, returned⟩ | ⟨reason, refused⟩ := validates.refuses
    · cases raises.symm.trans returned
    · cases raises.symm.trans refused

end Integr8s.CsrfValidation
