/-
Module: Integr8s.Domain.SavedScripts
Purpose: The scripts that users save, and what an update sets on one.
Trusted boundary: human-reviewed spec
Main exports: SavedScriptDocument, SavedScriptChanges,
  SavedScriptDocument.set
-/
import Integr8s.Domain.Execution

namespace Integr8s

abbrev ScriptId := String

structure SavedScriptDocument where
  scriptId : ScriptId
  userId : UserId
  name : String
  script : String
  lang : String
  langVersion : String
  description : Option String := none
  createdAt : Nat
  updatedAt : Nat
deriving DecidableEq, Repr

/-- Fields an update sets; a missing one keeps the stored value, and a null
clears the description. -/
structure SavedScriptChanges where
  name : Option String := none
  script : Option String := none
  lang : Option String := none
  langVersion : Option String := none
  description : Option (Option String) := none
deriving DecidableEq, Repr

/-- The script after an update. -/
def SavedScriptDocument.set (doc : SavedScriptDocument)
    (changes : SavedScriptChanges) (updatedAt : Nat) : SavedScriptDocument :=
  { doc with
    name := changes.name.getD doc.name
    script := changes.script.getD doc.script
    lang := changes.lang.getD doc.lang
    langVersion := changes.langVersion.getD doc.langVersion
    description := changes.description.getD doc.description
    updatedAt := updatedAt }

end Integr8s
