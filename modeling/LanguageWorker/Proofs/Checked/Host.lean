import LanguageWorker.Host
import LanguageWorker.Proofs.Checked.Arithmetic

namespace LanguageWorker.Host

/-! Questions to a host. For most of them nothing is counted or cut; the others are answered by the
computations that may break off, and get the same answers. -/

/-- What anybody may ask a host. -/
inductive Question where
  | compilationSettings
  | scriptFileNames
  | scriptText (name : String)
  | scriptVersion (name : String)
  | scriptSnapshot (name : String)
  | scriptKind (name : String)
  | currentDirectory
  | defaultLibFileName (options : CompilerOptions)
  | isDefaultLibFileName (name : String)
  | fileText (name : String)
  | fileExists (name : String)
  /-- A piece of the snapshot of a file. -/
  | piece (name : String) (start stop : Nat)

namespace Question

@[reducible] def Answer : Question → Type
  | compilationSettings => CompilerOptions
  | scriptFileNames => List String
  | scriptText _ => Option String
  | scriptVersion _ => String
  | scriptSnapshot _ => Option Snapshot
  | scriptKind _ => ScriptKind
  | currentDirectory => String
  | defaultLibFileName _ => String
  | isDefaultLibFileName _ => Bool
  | fileText _ => String
  | fileExists _ => Bool
  | piece _ _ _ => Option (Option String)

end Question

def answer (host : Host) : (question : Question) → question.Answer
  | .compilationSettings => host.settings
  | .scriptFileNames => host.scriptFileNames
  | .scriptText name => host.scriptText? name
  | .scriptVersion name => host.scriptVersion name
  | .scriptSnapshot name => host.scriptSnapshot? name
  | .scriptKind name => host.scriptKind name
  | .currentDirectory => host.currentDirectory
  | .defaultLibFileName options => host.defaultLibFileName options
  | .isDefaultLibFileName name => host.isDefaultLibFileName name
  | .fileText name => host.fileText name
  | .fileExists name => host.fileExists name
  | .piece name start stop =>
      (host.scriptSnapshot? name).map fun snapshot => snapshot.getText? start stop

def checkedDefaultLibFileName (host : Host) (options : CompilerOptions) : Checked String :=
  DefaultLib.checkedName options.target host.hasLib

def checkedIsDefaultLibFileName (host : Host) (name : String) : Checked Bool := do
  let defaultName ← host.checkedDefaultLibFileName host.settings
  return defaultName == name

def checkedScriptVersion (host : Host) (name : String) : Checked String :=
  match host.directory.model? name with
  | some document => return toString document.version.toInt
  | none => do
      if ← host.checkedIsDefaultLibFileName name then return defaultLibVersion
      else
        match host.extraLibs.get? name with
        | some lib => return toString lib.version.toNat
        | none => return ""

/-- The answer to a question. All that is ever worked out for one is the name of a default file or
a piece of a text. -/
def checkedAnswer (host : Host) : (question : Question) → Checked question.Answer
  | .scriptVersion name => host.checkedScriptVersion name
  | .defaultLibFileName options => host.checkedDefaultLibFileName options
  | .isDefaultLibFileName name => host.checkedIsDefaultLibFileName name
  | .piece name start stop =>
      match host.scriptSnapshot? name with
      | some snapshot => do return some (← snapshot.checkedGetText? start stop)
      | none => return none
  | question => return host.answer question

theorem checkedDefaultLibFileName_eq (host : Host) (options : CompilerOptions) :
    host.checkedDefaultLibFileName options = .ok (host.defaultLibFileName options) :=
  DefaultLib.checkedName_eq options.target host.hasLib

theorem checkedIsDefaultLibFileName_eq (host : Host) (name : String) :
    host.checkedIsDefaultLibFileName name = .ok (host.isDefaultLibFileName name) := by
  rw [checkedIsDefaultLibFileName, checkedDefaultLibFileName_eq]
  rfl

theorem checkedScriptVersion_eq (host : Host) (name : String) :
    host.checkedScriptVersion name = .ok (host.scriptVersion name) := by
  rw [checkedScriptVersion, scriptVersion, checkedIsDefaultLibFileName_eq]
  cases host.directory.model? name with
  | some document => rfl
  | none =>
      cases host.isDefaultLibFileName name with
      | true => rfl
      | false =>
          cases host.extraLibs.get? name with
          | some lib => rfl
          | none => rfl

theorem checkedAnswer_eq (host : Host) (question : Question) :
    host.checkedAnswer question = .ok (host.answer question) := by
  cases question with
  | scriptVersion name => exact host.checkedScriptVersion_eq name
  | defaultLibFileName options => exact host.checkedDefaultLibFileName_eq options
  | isDefaultLibFileName name => exact host.checkedIsDefaultLibFileName_eq name
  | piece name start stop =>
      simp only [checkedAnswer, answer]
      cases host.scriptSnapshot? name with
      | none => rfl
      | some snapshot =>
          simp only [snapshot.checkedGetText?_eq]
          rfl
  | _ => rfl

end LanguageWorker.Host
