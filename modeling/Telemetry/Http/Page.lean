import Telemetry.Store

/-!
# The page of all metrics

Every metric is one item of a list.  Letters that mean something in a page are
written as entities, so names cannot add anything to the page but text.
-/

namespace Telemetry
namespace Http
namespace Page

/-- The spelling of a letter in a page. -/
def escapeLetter (letter : Char) : List Char :=
  if letter = '&' then "&amp;".toList
  else if letter = '<' then "&lt;".toList
  else if letter = '>' then "&gt;".toList
  else if letter = '"' then "&quot;".toList
  else if letter = '\x27' then "&#39;".toList
  else [letter]

/-- The spelling of a text in a page. -/
def escape (text : String) : String :=
  String.ofList (text.toList.flatMap escapeLetter)

/-- The list item of a row. -/
def item (row : String × String) : String :=
  "<li>" ++ escape row.1 ++ ": " ++ escape row.2 ++ "</li>"

/-- The page of rows. -/
def ofRows (rows : List (String × String)) : String :=
  "<html><body><h1>Metrics</h1><ul>" ++ String.join (rows.map item) ++ "</ul></body></html>"

/-- The page of a store. -/
def ofStore (store : Store) : String :=
  ofRows store.rows

end Page
end Http
end Telemetry
