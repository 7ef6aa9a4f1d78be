import LanguageWorker.CommandLine

namespace LanguageWorker.CommandLine

/-! The stages of an invocation: the payload, the built-in files, the documents. The first
stage that fails decides what goes wrong, and once all three are done what is printed is a
matter of the files that they have brought together. -/

/-- The files of a payload, a registry and a store. -/
def hostOf (payload : Payload) (libs : LibRegistry) (store : Store) : Host where
  directory := store.directory
  libs
  settings := payload.compilerOptions
  extraLibs := payload.extraLibs

/-- The default file of a target among built-in and extra files. -/
def defaultFile (target : Option ScriptTarget) (libs : LibRegistry) (extraLibs : ExtraLibs) :
    String :=
  DefaultLib.name target fun name => libs.contains name || extraLibs.contains name

variable {files : FileSystem Id} {environment : Environment} {invocation : Invocation}
  {payload : Payload} {libs : LibRegistry}

theorem run_of_no_payload {cause : LoadError}
    (refused : Payload.resolve files environment invocation.config = .error cause) :
    run files environment invocation = .error (.payload cause) := by
  simp only [run, buildHost, bind, pure, refused]

theorem run_of_no_libraries {cause : Failure}
    (resolved : Payload.resolve files environment invocation.config = .ok payload)
    (refused : loadLibraries files invocation.libDir = .error cause) :
    run files environment invocation = .error cause := by
  simp only [run, buildHost, bind, pure, resolved, refused]

theorem run_of_no_documents {cause : Failure}
    (resolved : Payload.resolve files environment invocation.config = .ok payload)
    (found : loadLibraries files invocation.libDir = .ok libs)
    (refused : openDocuments files .empty invocation.action.documents = .error cause) :
    run files environment invocation = .error cause := by
  simp only [run, buildHost, bind, pure, resolved, found, refused]

theorem run_of_loaded {store : Store}
    (resolved : Payload.resolve files environment invocation.config = .ok payload)
    (found : loadLibraries files invocation.libDir = .ok libs)
    (opened : openDocuments files .empty invocation.action.documents = .ok store) :
    run files environment invocation = print (hostOf payload libs store) invocation.action := by
  simp only [run, buildHost, bind, pure, resolved, found, opened, hostOf]

end LanguageWorker.CommandLine
