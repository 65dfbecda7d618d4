import Phrasebook.Dialect
import Phrasebook.Literal.Js

/-!
# JavaScript sources

Each language has a file `localizations_<tag>.js`, which exports one function that makes its table.
The binding `localizations.js` selects the current language, looks texts up and has one function
for each accessor; a list of records has a class with one method for each field.
-/

namespace Phrasebook.Js

open Spelling

/-- The words that the language does not allow as names. -/
def keywords : List String :=
  ["await", "break", "case", "catch", "class", "const", "continue", "debugger", "default",
   "delete", "do", "else", "enum", "export", "extends", "false", "finally", "for", "function",
   "if", "implements", "import", "in", "instanceof", "interface", "let", "new", "null", "package",
   "private", "protected", "public", "return", "static", "super", "switch", "this", "throw",
   "true", "try", "typeof", "var", "void", "while", "with", "yield"]

/-- The names that the binding itself declares. -/
def helpers : List String :=
  ["currentLanguage", "fallbackLanguage", "getCurrentLanguage", "getString", "localizations",
   "lookup", "setCurrentLanguage"]

/-- The names that no accessor and no class may have. -/
def reserved : List String := keywords ++ helpers

/-- A name, marked if it is reserved. -/
def identifier (name : String) : String := Naming.escapeReserved name reserved

/-- The name of the function that makes the table of a language. -/
def tableFunction (language : String) : String :=
  "localizations_" ++ Naming.languageIdentifier language

/-- The selection of a language and the look-up of texts. -/
def runtime (fallback : String) : List String :=
  [
    "// Generated localization bindings. Do not edit.",
    "",
    "let currentLanguage = null;",
    "export const fallbackLanguage = " ++ Literal.Js.quoted fallback ++ ";",
    "",
    "/** Selects the language every accessor reads; `null` selects the fallback language. */",
    "export function setCurrentLanguage(language) \x7b",
    "    currentLanguage = language ?? null;",
    "\x7d",
    "",
    "export function getCurrentLanguage() \x7b",
    "    return currentLanguage;",
    "\x7d",
    "",
    "function lookup(key) \x7b",
    "    const language = currentLanguage ?? fallbackLanguage;",
    "    const languageKey = language.split(\"-\")[0];",
    "    for (const candidate of [language, languageKey, fallbackLanguage]) \x7b",
    "        const table = localizations[candidate];",
    "        if (table !== undefined && Object.prototype.hasOwnProperty.call(table, key)) \x7b",
    "            return table[key];",
    "        \x7d",
    "    \x7d",
    "    return undefined;",
    "\x7d",
    "",
    "function getString(key, ...formatArgs) \x7b",
    "    const message = lookup(key);",
    "    if (message === undefined) \x7b",
    "        return \"\";",
    "    \x7d",
    "    return message.replace(/%(\\d+)\\$@/g, (placeholder, index) => \x7b",
    "        const argument = formatArgs[Number(index) - 1];",
    "        return argument === undefined ? placeholder : String(argument);",
    "    \x7d);",
    "\x7d",
    ""]

/-- The start of the binding. -/
def prologue (fallback : String) : String := lines (runtime fallback)

/-- The start of the file of a language. -/
def tableHeader (language : String) : String :=
  lines [
    s!"// Generated {language} localization file. Do not edit.",
    "",
    "export function " ++ tableFunction language ++ "() \x7b",
    "    const localizations = Object.create(null);"]

/-- An entry of a table. -/
def tableEntry (key text : String) : String :=
  "    localizations[" ++ Literal.Js.quoted key ++ "] = " ++ Literal.Js.text text ++ ";\n"

/-- The end of the file of a language. -/
def tableClosing : String := lines ["    return localizations;", "\x7d"]

/-- The function of a single text. -/
def accessor (function : String) (a : Address) (count : UInt64) : String :=
  let forwarded := (Literal.Js.quoted a.key :: parameters count)
  lines [
    "export function " ++ identifier function ++
      "(" ++ ", ".intercalate (parameters count) ++ ") \x7b",
    "    return getString(" ++ ", ".intercalate forwarded ++ ");",
    "\x7d",
    ""]

/-- The look-up of the element `i` of a list. -/
def elementLookup (a : Address) (i : Nat) : String :=
  "        getString(" ++ Literal.Js.quoted (elementKey a.key i) ++ "),"

/-- The function of a list of texts. -/
def listAccessor (function : String) (a : Address) (length : Nat) : String :=
  lines (
    ["export function " ++ identifier function ++ "() \x7b", "    return ["] ++
    (List.range length).map (elementLookup a) ++
    ["    ];", "\x7d", ""])

/-- The name of the class of the records of a list. -/
def typeName (a : Address) : String := identifier a.typeName

/-- The class of the records of a list. -/
def typeDeclaration (name : String) : String :=
  lines [
    "export class " ++ name ++ " \x7b",
    "    constructor(index) \x7b",
    "        this.index = index;",
    "    \x7d",
    "\x7d",
    ""]

/-- A text as it stands inside a template literal. -/
def templateText (text : String) : String :=
  String.ofList (Literal.Js.escapeTemplate text.toList)

/-- The template literal of the key of a field, with the place of the record put in. -/
def fieldLookup (a : Address) (field : String) : String :=
  "`" ++ templateText a.key ++ ".$\x7bthis.index\x7d." ++ templateText field ++ "`"

/-- The method of a field. -/
def fieldAccessor (a : Address) (field : String) : String :=
  lines [
    typeName a ++ ".prototype[" ++ Literal.Js.quoted field ++ "] = function () \x7b",
    "    return getString(" ++ fieldLookup a field ++ ");",
    "\x7d;",
    ""]

/-- The import of a table. -/
def tableImport (language : String) : String :=
  let function := tableFunction language
  "import \x7b " ++ function ++ " \x7d from \"./" ++ function ++ ".js\";"

/-- The entry of a table in the table of tables. -/
def tableOfTablesEntry (language : String) : String :=
  "    localizations[" ++ Literal.Js.quoted language ++ "] = " ++ tableFunction language ++ "();"

/-- The imports of all tables, and the table of tables. -/
def epilogue (languages : List String) : String :=
  lines (
    languages.map tableImport ++
    ["", "const localizations = (() => \x7b", "    const localizations = Object.create(null);"] ++
    languages.map tableOfTablesEntry ++
    ["    return localizations;", "\x7d)();"])

/-- The spelling of JavaScript sources. -/
def dialect : Dialect where
  target := .js
  prologue _ fallback := prologue fallback
  tableHeader _ language := tableHeader language
  tableEntry := tableEntry
  tableClosing := tableClosing
  accessor := accessor
  listAccessor := listAccessor
  typeName := typeName
  typeDeclaration := typeDeclaration
  fieldAccessor := fieldAccessor
  epilogue := epilogue
  tableFile language := tableFunction language ++ ".js"
  bindingFile := "localizations.js"

end Phrasebook.Js
