import TechniquePages.Unicode.Case

/-!
# Platforms

A record names a platform by a token and a page by a display name.  The known
platforms are listed in one table.  An unknown display name stands for its
lower case, and an unknown token is shown with its first letter in upper case.
-/

namespace TechniquePages.Page.Platform

open Unicode (lower upperCharacter)

/-- The known platforms: display name and token. -/
def known : List (String × String) := [
  ("Windows", "windows"),
  ("Linux", "linux"),
  ("macOS", "macos"),
  ("Office 365", "office-365"),
  ("Azure AD", "azure-ad"),
  ("IaaS", "iaas"),
  ("SaaS", "saas"),
  ("AWS", "iaas:aws"),
  ("Azure", "iaas:azure"),
  ("GCP", "iaas:gcp"),
  ("Google Workspace", "google-workspace"),
  ("Containers", "containers"),
  ("ESXi", "esxi")]

/-- The token that a display name stands for. -/
def token (display : Text) : Text :=
  match known.find? fun entry => entry.1.toList == display with
  | some (_, token) => token.toList
  | none => lower display

/-- The name by which a page shows a token. -/
def display (token : Text) : Text :=
  match known.find? fun entry => entry.2.toList == token with
  | some (display, _) => display.toList
  | none =>
    match token with
    | [] => []
    | first :: rest => upperCharacter first ++ rest

/-- The tokens of a list of display names with commas between them. -/
def readList (names : Text) : List Text :=
  (((Text.cutAt ',' names).map Text.trim).filter fun name => !name.isEmpty).map token

/-- The display names of tokens with commas between them. -/
def writeList (tokens : List Text) : Text :=
  Text.joinWith ", ".toList (tokens.map display)

example : readList "Windows, , macOS,PRE".toList =
    ["windows".toList, "macos".toList, "pre".toList] := by decide +kernel

example : writeList ["iaas:aws".toList, "network".toList] = "AWS, Network".toList := by
  decide +kernel

end TechniquePages.Page.Platform
