import ActionGateway.ApiVersion
import ActionGateway.Form.UrlEncoded

/-!
# Configuration of the site

What the gateway knows about the site that it serves, and how it links to the documentation of an
action.
-/

namespace ActionGateway

structure SiteConfig where
  /-- the address under which the site is reached -/
  siteUrl : String
  siteTitle : String
  /-- the path under which all routes of the API lie -/
  apiPrefix : String
  /-- the version of routes that name none -/
  defaultVersion : ApiVersion
  /-- the greatest version that a route may name -/
  maxVersion : ApiVersion
  /-- the locales that have translations -/
  locales : List String
  /-- the directory of the translations -/
  translationsDir : String

namespace SiteConfig

def default : SiteConfig where
  siteUrl := "http://localhost:5000"
  siteTitle := "Data Catalog"
  apiPrefix := "/api"
  defaultVersion := .v3
  maxVersion := .v3
  locales := ["en"]
  translationsDir := "i18n"

/-- A text without the slashes that end it. -/
def withoutTrailingSlashes (s : String) : String :=
  String.ofList (s.toList.reverse.dropWhile (· = '/')).reverse

/-- The path under which the routes lie, which does not end with a slash. -/
def basePath (config : SiteConfig) : String :=
  withoutTrailingSlashes config.apiPrefix

/-- The address of the documentation of an action. -/
def helpUrl (config : SiteConfig) (version : ApiVersion) (action : String) : String :=
  withoutTrailingSlashes config.siteUrl ++ config.basePath ++ "/" ++ version.text ++
    "/action/help_show?name=" ++ UrlEncoded.encode action

end SiteConfig

end ActionGateway
