/-
Module: Integr8s.Services.SavedScripts
Purpose: The saved script service: save, read, list, update and delete the
  scripts of a user.
Trusted boundary: human-reviewed spec
Main exports: SavedScriptService.createSavedScript,
  SavedScriptService.getSavedScript, SavedScriptService.updateSavedScript,
  SavedScriptService.deleteSavedScript, SavedScriptService.listSavedScripts,
  SavedScriptCall, SavedScriptCall.start
-/
import Integr8s.Domain.Runtimes
import Integr8s.Infrastructure.ScriptStore

namespace Integr8s

namespace SavedScriptRepository

def createSavedScript (script : SavedScriptDocument) : ScriptProgram Unit :=
  scripts (.insert script)

def getSavedScript (scriptId : ScriptId) (userId : UserId) :
    ScriptProgram (Option SavedScriptDocument) :=
  scripts (.findOne scriptId userId)

/-- Update the script that was read under this id and owner. -/
def updateSavedScript (scriptId : ScriptId) (userId : UserId)
    (changes : SavedScriptChanges) : ScriptProgram SavedScriptDocument := do
  let updatedAt ← scripts .now
  scripts (.set scriptId userId changes updatedAt)

def deleteSavedScript (scriptId : ScriptId) (userId : UserId) :
    ScriptProgram Bool := do
  match ← scripts (.findOne scriptId userId) with
  | none => pure false
  | some _ => do
      scripts (.delete scriptId userId)
      pure true

def listSavedScripts (userId : UserId) :
    ScriptProgram (List SavedScriptDocument) :=
  scripts (.find userId)

end SavedScriptRepository

namespace SavedScriptService

/-- `SavedScriptNotFoundError`. -/
def notFound (scriptId : ScriptId) : PyException :=
  .notFoundError "Script" scriptId

def ensureRuntimeOffered (lang langVersion : String) : ScriptProgram Unit :=
  if (runtimeRegistry lang langVersion).isSome then pure ()
  else Coroutine.raise (.runtimeNotSupportedError lang langVersion)

def createSavedScript (userId : UserId)
    (name script lang langVersion : String) (description : Option String) :
    ScriptProgram SavedScriptDocument := do
  ensureRuntimeOffered lang langVersion
  let scriptId ← scripts .uuid
  let createdAt ← scripts .now
  let updatedAt ← scripts .now
  let createdScript :=
    { scriptId := scriptId
      userId := userId
      name := name
      script := script
      lang := lang
      langVersion := langVersion
      description := description
      createdAt := createdAt
      updatedAt := updatedAt }
  SavedScriptRepository.createSavedScript createdScript
  pure createdScript

def getSavedScript (scriptId : ScriptId) (userId : UserId) :
    ScriptProgram SavedScriptDocument := do
  match ← SavedScriptRepository.getSavedScript scriptId userId with
  | none => Coroutine.raise (notFound scriptId)
  | some script => pure script

def updateSavedScript (scriptId : ScriptId) (userId : UserId)
    (changes : SavedScriptChanges) : ScriptProgram SavedScriptDocument := do
  match ← SavedScriptRepository.getSavedScript scriptId userId with
  | none => Coroutine.raise (notFound scriptId)
  | some stored => do
      if changes.lang.isSome || changes.langVersion.isSome then
        ensureRuntimeOffered (changes.lang.getD stored.lang)
          (changes.langVersion.getD stored.langVersion)
      SavedScriptRepository.updateSavedScript scriptId userId changes

def deleteSavedScript (scriptId : ScriptId) (userId : UserId) :
    ScriptProgram Unit := do
  let deleted ← SavedScriptRepository.deleteSavedScript scriptId userId
  if !deleted then Coroutine.raise (notFound scriptId) else pure ()

def listSavedScripts (userId : UserId) :
    ScriptProgram (List SavedScriptDocument) :=
  SavedScriptRepository.listSavedScripts userId

end SavedScriptService

/-- What a request asks of the service. -/
inductive SavedScriptRequest where
  | create (name script lang langVersion : String)
      (description : Option String)
  | get (scriptId : ScriptId)
  | update (scriptId : ScriptId) (changes : SavedScriptChanges)
  | delete (scriptId : ScriptId)
  | list
deriving DecidableEq

/-- What a request answers with. -/
inductive SavedScriptAnswer where
  | script (doc : SavedScriptDocument)
  | scripts (docs : List SavedScriptDocument)
  | nothing
deriving DecidableEq, Repr

/-- One request of a user. -/
structure SavedScriptCall where
  userId : UserId
  request : SavedScriptRequest
deriving DecidableEq

open SavedScriptService in
def SavedScriptCall.run (call : SavedScriptCall) :
    ScriptProgram SavedScriptAnswer :=
  match call.request with
  | .create name script lang langVersion description => do
      let doc ← createSavedScript call.userId name script lang langVersion
        description
      pure (.script doc)
  | .get scriptId => do
      let doc ← getSavedScript scriptId call.userId
      pure (.script doc)
  | .update scriptId changes => do
      let doc ← updateSavedScript scriptId call.userId changes
      pure (.script doc)
  | .delete scriptId => do
      deleteSavedScript scriptId call.userId
      pure .nothing
  | .list => do
      let docs ← listSavedScripts call.userId
      pure (.scripts docs)

/-- The state of a run: the store and the requests that still live. -/
abbrev SavedScripts := Callers Caller ScriptStore ScriptCommand ScriptReply
  PyException SavedScriptAnswer

/-- Any number of requests over a store. -/
def SavedScriptCall.start (store : ScriptStore)
    (calls : Caller → SavedScriptCall) : SavedScripts where
  shared := store
  running caller := some (calls caller).run

end Integr8s
