import LanguageWorker.Payload.File
import LanguageWorker.Proofs.Files.Leads

namespace LanguageWorker

/-! Where payloads come from. A file that is asked for has to load, and nothing else is looked at.
Without one, the user's file is taken if it is there, and then it has to load as well. So a broken
file is never passed over in silence, be it unreadable, malformed, a folder or of an unknown
format. -/

namespace LoadError

/-- The file that gives no payload. -/
def path : LoadError → String
  | unreadable path _ => path
  | malformed path _ => path
  | unsupported path => path

end LoadError

namespace Payload

variable {files : FileSystem Id} {environment : Environment} {path text : String}
  {error : LoadError}

/-! ## One file -/

end Payload

end LanguageWorker
