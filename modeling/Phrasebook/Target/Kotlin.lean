import Phrasebook.Dialect
import Phrasebook.Literal.Kotlin
import Phrasebook.Unicode.WhiteSpace

/-!
# Kotlin sources

Each language has a file `Localizations_<tag>.kt` with one function that makes its table.  The
binding `Localizations.kt` holds the current language, looks texts up and has one function for
each accessor; a list of records has a class, and each field an extension function on it.  All
files may declare a package.
-/

namespace Phrasebook.Kotlin

open Spelling

/-- The words that the language does not allow as names. -/
def keywords : List String :=
  ["as", "break", "class", "continue", "do", "else", "false", "for", "fun", "if", "in",
   "interface", "is", "null", "object", "package", "return", "super", "this", "throw", "true",
   "try", "typealias", "typeof", "val", "var", "when", "while"]

/-- The names that the binding itself declares. -/
def helpers : List String :=
  ["currentLanguage", "fallbackLanguage", "getString", "localizations", "lookup",
   "placeholderPattern"]

/-- The names that no accessor and no class may have. -/
def reserved : List String := keywords ++ helpers

/-- A name, marked if it is reserved. -/
def identifier (name : String) : String := Naming.escapeReserved name reserved

/-- The name of the function that makes the table of a language. -/
def tableFunction (language : String) : String :=
  "localizations_" ++ Naming.languageIdentifier language

/-- The declaration of the package, if there is one that is not blank. -/
def packageDeclaration : Option String → List String
  | some package =>
    if Unicode.isBlank package then [] else ["package " ++ Unicode.trim package, ""]
  | none => []

/-- The selection of a language and the look-up of texts. -/
def runtime (fallback : String) : List String :=
  [
    "/**",
    " * Language every accessor reads. `null` selects [fallbackLanguage].",
    " * Only the application's language setting should write it.",
    " */",
    "var currentLanguage: String? = null",
    "",
    "const val fallbackLanguage = " ++ Literal.Kotlin.quoted fallback,
    "",
    "private val placeholderPattern = Regex(\"%(\\\\d+)\\\\$@\")",
    "",
    "private fun lookup(key: String): String? \x7b",
    "    val language = currentLanguage ?: fallbackLanguage",
    "    val languageKey = language.split('-')[0]",
    "    return listOf(language, languageKey, fallbackLanguage)",
    "        .firstNotNullOfOrNull \x7b localizations[it]?.get(key) \x7d",
    "\x7d",
    "",
    "private fun getString(key: String, vararg formatArgs: String): String \x7b",
    "    val message = lookup(key) ?: return \"\"",
    "    return placeholderPattern.replace(message) \x7b match ->",
    "        val position = (match.groupValues[1].toIntOrNull() ?: 0) - 1",
    "        if (position in formatArgs.indices) formatArgs[position] else match.value",
    "    \x7d",
    "\x7d",
    ""]

/-- The start of the binding. -/
def prologue (package : Option String) (fallback : String) : String :=
  lines (["// Generated localization bindings. Do not edit.", ""] ++ packageDeclaration package ++
    runtime fallback)

/-- The start of the file of a language. -/
def tableHeader (package : Option String) (language : String) : String :=
  lines (
    [s!"// Generated {language} localization file. Do not edit.", ""] ++
    packageDeclaration package ++
    ["internal fun " ++ tableFunction language ++ "(): Map<String, String> \x7b",
      "    val localizations = mutableMapOf<String, String>()",
      ""])

/-- An entry of a table. -/
def tableEntry (key text : String) : String :=
  "    localizations[" ++ Literal.Kotlin.quoted key ++ "] = " ++ Literal.Kotlin.text text ++ "\n"

/-- The end of the file of a language. -/
def tableClosing : String := lines ["    return localizations", "\x7d"]

/-- The function of a single text. -/
def accessor (function : String) (a : Address) (count : UInt64) : String :=
  let typed := (parameters count).map (· ++ ": String")
  let forwarded := (Literal.Kotlin.quoted a.key :: parameters count)
  lines [
    "fun " ++ identifier function ++ "(" ++ ", ".intercalate typed ++ "): String = getString(" ++
      ", ".intercalate forwarded ++ ")",
    ""]

/-- The look-up of the element `i` of a list. -/
def elementLookup (a : Address) (i : Nat) : String :=
  "    getString(" ++ Literal.Kotlin.quoted (elementKey a.key i) ++ "),"

/-- The function of a list of texts. -/
def listAccessor (function : String) (a : Address) (length : Nat) : String :=
  lines (
    ["fun " ++ identifier function ++ "(): List<String> = listOf("] ++
    (List.range length).map (elementLookup a) ++
    [")", ""])

/-- The name of the class of the records of a list. -/
def typeName (a : Address) : String := identifier a.typeName

/-- The class of the records of a list. -/
def typeDeclaration (name : String) : String :=
  lines ["class " ++ name ++ "(val index: Int)", ""]

/-- The string literal of the key of a field, with the place of the record put in. -/
def fieldLookup (a : Address) (field : String) : String :=
  "\"" ++ Literal.Kotlin.escaped a.key ++ ".$index." ++ Literal.Kotlin.escaped field ++ "\""

/-- The extension function of a field. -/
def fieldAccessor (a : Address) (field : String) : String :=
  lines [
    "fun " ++ typeName a ++ "." ++ identifier (Naming.memberName field) ++
      "(): String = getString(" ++ fieldLookup a field ++ ")",
    ""]

/-- The entry of a table in the table of tables. -/
def tableOfTablesEntry (language : String) : String :=
  "    localizations[" ++ Literal.Kotlin.quoted language ++ "] = " ++ tableFunction language ++ "()"

/-- The table of tables. -/
def epilogue (languages : List String) : String :=
  lines (
    ["private val localizations: Map<String, Map<String, String>> by lazy \x7b",
      "    val localizations = mutableMapOf<String, Map<String, String>>()"] ++
    languages.map tableOfTablesEntry ++
    ["    localizations", "\x7d"])

/-- The spelling of Kotlin sources. -/
def dialect : Dialect where
  target := .kotlin
  prologue := prologue
  tableHeader := tableHeader
  tableEntry := tableEntry
  tableClosing := tableClosing
  accessor := accessor
  listAccessor := listAccessor
  typeName := typeName
  typeDeclaration := typeDeclaration
  fieldAccessor := fieldAccessor
  epilogue := epilogue
  tableFile language := "Localizations_" ++ Naming.languageIdentifier language ++ ".kt"
  bindingFile := "Localizations.kt"

end Phrasebook.Kotlin
