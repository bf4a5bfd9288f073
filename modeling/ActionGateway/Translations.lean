import ActionGateway.FileTree
import ActionGateway.Framing
import ActionGateway.SiteConfig

/-!
# Translations

Pages load their translations as one text for each locale, from a file named for the locale. Only
the locales that the site is configured for are looked for. A locale without a file has no
translations; a file that cannot be read is a failure of the server.
-/

namespace ActionGateway.Translations

/-- What looking for the translations of a locale gives. -/
inductive Lookup
  | found (text : String)
  | missing
  | unreadable
  deriving DecidableEq, Repr

/-- The path of the file of a locale. -/
def path (config : SiteConfig) (locale : String) : String :=
  Place.join config.translationsDir (locale ++ ".js")

/-- Reads the file of a locale, which must be UTF-8. -/
def find (files : Place) (config : SiteConfig) (locale : String) : Lookup :=
  match files.read (path config locale) with
  -- A directory in the place of the file is a failure too.
  | .error .missing => .missing
  | .error _ => .unreadable
  | .ok contents =>
    match Utf8.decode? contents with
    | some text => .found text
    | none => .unreadable

/-- The response to a request for the translations of a locale. -/
def respond (files : Place) (config : SiteConfig) (locale : String) (framing : Framing) :
    Response :=
  if config.locales.contains locale then
    match find files config locale with
    | .found text => framing.ok (.text text) .json
    | .missing => framing.ok (.text "\x7b\x7d") .json
    | .unreadable => framing.frame 500 (some (.text "Internal Server Error")) .text []
  else framing.badRequest (some ("Unknown locale: " ++ locale))

end ActionGateway.Translations
