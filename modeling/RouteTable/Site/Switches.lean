/-
# Clean URLs and trailing slashes

Two switches of a configuration stand for redirects of their own.

* Clean URLs: `/index` and `/index.html` go to their directory, and every other
  path that ends in `.html` to the path without it, in both cases with a slash
  behind or not, as the trailing-slash switch has it.
* Trailing slashes: a path without one goes to the path with one, or the other
  way round.

A table of clean URLs lists the same for the files of a site.
-/

import RouteTable.Route

namespace RouteTable
namespace Site

/-- A file whose path ends in `.html`, as a path of the site, and the path without
the ending. -/
structure CleanUrl where
  html : Text
  clean : Text
  deriving DecidableEq, Repr

/-- The ending that clean URLs leave out. -/
def htmlEnding : Text := ".html".text

/-- The clean URL of a file, if its path has one. -/
def cleanUrl? (path : Text) : Option CleanUrl :=
  (Text.dropTrailing? htmlEnding path).map fun clean => ⟨'/' :: path, '/' :: clean⟩

/-- The clean URLs of files, in order; other files are left out. -/
def cleanUrls (paths : List Text) : List CleanUrl := paths.filterMap cleanUrl?

/-- A redirect of the default status to a location. -/
def redirectTo (src location : String) : Route :=
  .redirect src.text [("Location".text, location.text)] (.int defaultStatus)

/-- What matches an index file with the directory before it. -/
def indexSource : String := "^/(?:(.+)/)?index(?:\\.html)?/?$"

/-- What matches a path that ends in `.html`. -/
def htmlSource : String := "^/(.*)\\.html/?$"

/-- The routes of the switch for clean URLs. -/
def cleanUrlRoutes (enabled trailingSlash : Bool) : List Route :=
  if enabled then
    let location := if trailingSlash then "/$1/" else "/$1"
    [redirectTo indexSource location, redirectTo htmlSource location]
  else []

/-- What matches a path that does not end in a slash. -/
def unslashedSource : String := "^/(.*[^\\/])$"

/-- What matches a path that ends in a slash. -/
def slashedSource : String := "^/(.*)\\/$"

/-- The route of the switch for trailing slashes. -/
def trailingSlashRoutes (enabled : Bool) : List Route :=
  if enabled then [redirectTo unslashedSource "/$1/"] else [redirectTo slashedSource "/$1"]

end Site
end RouteTable
