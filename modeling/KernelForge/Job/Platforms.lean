import KernelForge.Platform.Listing
import KernelForge.Job

/-!
Contract: the job that lists the platforms.

Owns: the formats by name, and the refusal of any other name.

Does not own: the listings.
-/

namespace KernelForge.Platforms

/-- The listing in a format; the plain one if none is named. -/
def listing : Option String → Except JobFailure String
  | none => .ok Platform.plainListing
  | some format =>
      if format = "text" then .ok Platform.plainListing
      else if format = "toml" then .ok Platform.tomlListing
      else if format = "json" then .ok (Platform.jsonListing ++ "\n")
      else .error (.unknownFormat format)

def run (host : Host) (format : Option String) : Effects :=
  host.answers (listing format)

end KernelForge.Platforms
