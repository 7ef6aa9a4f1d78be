import LanguageWorker.Documents.Directory
import LanguageWorker.Libraries.LibRegistry
import LanguageWorker.Script.DefaultLib
import LanguageWorker.Service.LanguageService

namespace LanguageWorker

/-! The files that the engine gets to see. They come from three sources: the open
documents, the declaration files that come with the engine, and the extra
declaration files of the caller. The host owns none of them; it only looks
them up. -/

structure Host where
  directory : Directory
  libs : LibRegistry
  settings : CompilerOptions
  extraLibs : ExtraLibs

namespace Host

/-- The version of the default declaration file, which never changes. -/
def defaultLibVersion : String := "1"

/-- The name of the built-in file that a short name like `es5` stands for. -/
def shorthand (name : String) : String := "lib." ++ name ++ ".d.ts"

/-- Whether a declaration file of that name exists in either registry. -/
def hasLib (host : Host) (name : String) : Bool :=
  host.libs.contains name || host.extraLibs.contains name

/-- The default declaration file for some options. -/
def defaultLibFileName (host : Host) (options : CompilerOptions) : String :=
  DefaultLib.name options.target host.hasLib

def isDefaultLibFileName (host : Host) (name : String) : Bool :=
  host.defaultLibFileName host.settings == name

/-- The text of a built-in file, by its name or its short name. -/
def builtInText? (host : Host) (name : String) : Option String :=
  match host.libs.get? name with
  | some text => some text
  | none => host.libs.get? (shorthand name)

/-- The text of a file. An open document hides a built-in file, and that an extra
one. -/
def scriptText? (host : Host) (name : String) : Option String :=
  match host.directory.model? name with
  | some document => some document.text
  | none =>
      match host.builtInText? name with
      | some text => some text
      | none => (host.extraLibs.get? name).map ExtraLib.content

/-- The open documents followed by the extra declaration files. -/
def scriptFileNames (host : Host) : List String :=
  host.directory.models.map Document.uri ++ host.extraLibs.keys

/-- The version of a file: that of an open document, then the fixed one of the
default declaration file, then that of an extra file. Other files have none. -/
def scriptVersion (host : Host) (name : String) : String :=
  match host.directory.model? name with
  | some document => toString document.version.toInt
  | none =>
      if host.isDefaultLibFileName name then defaultLibVersion
      else
        match host.extraLibs.get? name with
        | some lib => toString lib.version.toNat
        | none => ""

def scriptSnapshot? (host : Host) (name : String) : Option Snapshot :=
  (host.scriptText? name).map Snapshot.mk

def scriptKind (host : Host) (name : String) : ScriptKind :=
  ScriptKind.ofFileName name host.settings.allowsJs

def currentDirectory (_host : Host) : String := ""

def fileText (host : Host) (name : String) : String := (host.scriptText? name).getD ""

def fileExists (host : Host) (name : String) : Bool := (host.scriptText? name).isSome

/-- What the engine is shown. -/
def view (host : Host) : HostView where
  compilationSettings := host.settings
  scriptFileNames := host.scriptFileNames
  scriptVersion := host.scriptVersion
  scriptSnapshot := host.scriptSnapshot?
  scriptKind := host.scriptKind
  currentDirectory := host.currentDirectory
  defaultLibFileName := host.defaultLibFileName
  isDefaultLibFileName := host.isDefaultLibFileName
  fileText := host.fileText
  fileExists := host.fileExists

end Host

end LanguageWorker
