import WebhookWise.PythonValues

/-!
# Text that the database reads from a JSON column

A query can select one entry of a document as text, without loading the document.  A string is
read as it is; an entry that is absent or null is `NULL`; anything else is read as its JSON text.
-/

namespace WebhookWise

/-- What the database does to text, where that rests on its locale or its JSON printer. -/
structure PostgresText where
  /-- `lower(text)`. -/
  lower : String → String
  /-- The text of a `jsonb` value that is not a string. -/
  jsonbText : Json → String

def PostgresText.plain : PostgresText where
  lower text := String.ofList (text.toList.map Char.toLower)
  jsonbText _ := "0"

namespace JsonColumns

/-- `column[key].astext`. -/
def astext (postgres : PostgresText) (column : Option Json) (key : String) : Option String :=
  match column with
  | some (.dict entries) =>
      match PyDict.get? entries key with
      | none => none
      | some .null => none
      | some (.str text) => some text
      | some value => some (postgres.jsonbText value)
  | _ => none

end JsonColumns

end WebhookWise
