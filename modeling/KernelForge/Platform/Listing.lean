import KernelForge.Json.Printer
import KernelForge.Platform
import KernelForge.Toml.Printer

/-!
Contract: the platform table as text, as TOML and as JSON.

Owns: the three listings of `supportedPlatforms`, all in table order with the
fields in the order identifier, device, description, generation.

Does not own: which listing a user asked for.
-/

namespace KernelForge

/-- A text followed by spaces up to a width, in characters. -/
def padRight (width : Nat) (text : String) : String :=
  text ++ String.ofList (List.replicate (width - text.length) ' ')

namespace Platform

def line (platform : Platform) : String :=
  "  " ++ padRight 8 platform.id ++ " " ++ padRight 8 platform.device ++ " " ++
    platform.description ++ " (" ++ platform.generation ++ ")\n"

def plainListing : String :=
  "Supported platforms:\n\n" ++ String.join (supportedPlatforms.map line)

def tomlElement (platform : Platform) : String :=
  Toml.elementHeading "platforms" ++ Toml.textLine "id" platform.id ++
    Toml.textLine "device" platform.device ++
    Toml.textLine "description" platform.description ++
    Toml.textLine "generation" platform.generation

/-- The TOML listing: an array of tables with a blank line between elements. -/
def tomlListing : String :=
  String.intercalate "\n" (supportedPlatforms.map tomlElement)

def json (platform : Platform) : Json :=
  .object
    [("id", .text platform.id), ("device", .text platform.device),
     ("description", .text platform.description), ("generation", .text platform.generation)]

/-- The JSON listing, without a line end behind it. -/
def jsonListing : String :=
  (Json.object [("platforms", .array (supportedPlatforms.map json))]).pretty

end Platform

end KernelForge
