/-
# How values are shown

The text of a value inside a message.  Truth values and nothing are words, texts
are quoted, lists stand in brackets, tuples in parentheses with a comma after a
lone item, maps in braces, and rules and routes are their kind with the names and
values of their fields.
-/

import RouteTable.Value

namespace RouteTable
namespace Value

/-- Texts with a comma and a blank between neighbours. -/
def commaSeparated (ts : List Text) : Text := Text.join ", ".text ts

/-- A kind with the names and the texts of its fields. -/
def showFields (kind : String) (fields : List (String × Text)) : Text :=
  kind.text ++ scalar '(' :: commaSeparated (fields.map fun (name, t) =>
    name.text ++ scalar '=' :: t) ++ [scalar ')']

/-- A tuple of texts. -/
def showTuple : List Text → Text
  | [t] => scalar '(' :: t ++ [scalar ',', scalar ')']
  | ts => scalar '(' :: commaSeparated ts ++ [scalar ')']

mutual

/-- The text of a value. -/
def display : Value → Text
  | null => "None".text
  | bool b => (if b then "True" else "False").text
  | int n => (toString n).text
  | float x => x.text
  | text t => Text.quoted t
  | list items => scalar '[' :: commaSeparated (displayItems items) ++ [scalar ']']
  | tuple items => showTuple (displayItems items)
  | map entries => scalar '\x7b' :: commaSeparated (displayEntries entries) ++ [scalar '\x7d']
  | redirect source destination status =>
    showFields "Redirect" [("source", Text.quoted source),
      ("destination", Text.quoted destination), ("status_code", display status)]
  | rewrite source destination =>
    showFields "Rewrite" [("source", Text.quoted source),
      ("destination", Text.quoted destination)]
  | headerRule source headers =>
    showFields "HeaderRule" [("source", Text.quoted source),
      ("headers", showTuple (headers.map fun (k, v) =>
        showFields "HeaderEntry" [("key", Text.quoted k), ("value", Text.quoted v)]))]
  | config cleanUrls trailingSlash redirects rewrites headers =>
    showFields "RoutingConfig" [("clean_urls", display cleanUrls),
      ("trailing_slash", display trailingSlash), ("redirects", display redirects),
      ("rewrites", display rewrites), ("headers", display headers)]
  | redirectRoute src headers status =>
    showFields "RedirectRoute" [("src", display src), ("headers", display headers),
      ("status", display status)]
  | rewriteRoute src dest check =>
    showFields "RewriteRoute" [("src", display src), ("dest", display dest),
      ("check", display check)]
  | headerRoute src headers goOn =>
    showFields "HeaderRoute" [("src", display src), ("headers", display headers),
      ("continue_", display goOn)]
  | handleRoute handle => showFields "HandleRoute" [("handle", display handle)]

/-- The texts of values. -/
def displayItems : List Value → List Text
  | [] => []
  | v :: vs => display v :: displayItems vs

/-- The texts of entries: key, colon, blank, value. -/
def displayEntries : List (Value × Value) → List Text
  | [] => []
  | (k, v) :: entries =>
      (display k ++ scalar ':' :: scalar ' ' :: display v) :: displayEntries entries

end

/-- The text of a value, if it can be written. -/
def shown (v : Value) : Except Fault Text :=
  if v.isWritable then .ok v.display else .error .numeralTooLong

example : display (.tuple [.int 1, .text "a'".text, .null, .tuple [.bool true]])
    = "(1, \"a'\", None, (True,))".text := by decide +kernel

end Value
end RouteTable
