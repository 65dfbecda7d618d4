import Phrasebook.Dialect
import Phrasebook.Literal.Rust

/-!
# Rust sources

Each language has a file `localizations_<tag>.rs` with one function that makes its table.  The
binding `localizations.rs` includes these files, holds the current language, looks texts up and
has one function for each accessor; a list of records has a struct with one method for each field.
-/

namespace Phrasebook.Rust

open Spelling

/-- The words that the language does not allow as names. -/
def keywords : List String :=
  ["as", "async", "await", "box", "break", "const", "continue", "crate", "dyn", "else", "enum",
   "extern", "false", "fn", "for", "gen", "if", "impl", "in", "let", "loop", "match", "mod",
   "move", "mut", "pub", "ref", "return", "self", "static", "struct", "super", "trait", "true",
   "try", "type", "unsafe", "use", "where", "while", "yield"]

/-- The names that the binding itself declares. -/
def helpers : List String :=
  ["current_language", "get_string", "lookup", "set_current_language"]

/-- The names that no function, method or struct may have. -/
def reserved : List String := keywords ++ helpers

/-- The start of the names of the functions that make tables. -/
def tableMark : String := "localizations_"

/-- A name, marked if it is reserved or looks like the function of a table. -/
def identifier (name : String) : String :=
  if tableMark.toList.isPrefixOf name.toList then name ++ "_"
  else Naming.escapeReserved name reserved

/-- The name of the function that makes the table of a language. -/
def tableFunction (language : String) : String :=
  tableMark ++ Unicode.asciiLowercase (Naming.languageIdentifier language)

/-- The name of the file with the table of a language. -/
def tableFile (language : String) : String := tableFunction language ++ ".rs"

/-- The selection of a language and the look-up of texts. -/
def runtime (fallback : String) : List String :=
  [
    "// Generated localization bindings. Do not edit.",
    "",
    "use std::collections::HashMap;",
    "use std::sync::\x7bLazyLock, PoisonError, RwLock\x7d;",
    "",
    "/// Language every accessor reads. `None` selects [`FALLBACK_LANGUAGE`].",
    "/// Written through [`set_current_language`] only.",
    "static CURRENT_LANGUAGE: RwLock<Option<String>> = RwLock::new(None);",
    "",
    "pub const FALLBACK_LANGUAGE: &str = " ++ Literal.Rust.quoted fallback ++ ";",
    "",
    "pub fn set_current_language(language: Option<&str>) \x7b",
    "    *CURRENT_LANGUAGE.write().unwrap_or_else(PoisonError::into_inner) =",
    "        language.map(str::to_owned);",
    "\x7d",
    "",
    "pub fn current_language() -> Option<String> \x7b",
    "    CURRENT_LANGUAGE",
    "        .read()",
    "        .unwrap_or_else(PoisonError::into_inner)",
    "        .clone()",
    "\x7d",
    "",
    "#[allow(dead_code, clippy::let_and_return)]",
    "fn lookup(key: &str) -> Option<&'static str> \x7b",
    "    let language = current_language().unwrap_or_else(|| FALLBACK_LANGUAGE.to_owned());",
    "    let language_key = language.split('-').next().unwrap_or(language.as_str());",
    "    let candidates = [language.as_str(), language_key, FALLBACK_LANGUAGE];",
    "    let found = candidates",
    "        .into_iter()",
    "        .find_map(|candidate| LOCALIZATIONS.get(candidate)?.get(key).copied());",
    "    found",
    "\x7d",
    "",
    "#[allow(dead_code)]",
    "fn get_string(key: &str, format_args: &[&str]) -> String \x7b",
    "    let Some(message) = lookup(key) else \x7b",
    "        return String::new();",
    "    \x7d;",
    "    let mut out = String::with_capacity(message.len());",
    "    let mut rest = message;",
    "    while let Some(start) = rest.find('%') \x7b",
    "        out.push_str(&rest[..start]);",
    "        let tail = &rest[start + 1..];",
    "        let digits = tail.bytes().take_while(u8::is_ascii_digit).count();",
    "        if digits > 0 && tail[digits..].starts_with(\"$@\") \x7b",
    "            let argument = tail[..digits]",
    "                .parse::<usize>()",
    "                .ok()",
    "                .and_then(|n| n.checked_sub(1))",
    "                .and_then(|i| format_args.get(i));",
    "            match argument \x7b",
    "                Some(argument) => out.push_str(argument),",
    "                None => out.push_str(&rest[start..start + digits + 3]),",
    "            \x7d",
    "            rest = &tail[digits + 2..];",
    "        \x7d else \x7b",
    "            out.push('%');",
    "            rest = tail;",
    "        \x7d",
    "    \x7d",
    "    out.push_str(rest);",
    "    out",
    "\x7d",
    ""]

/-- The start of the binding. -/
def prologue (fallback : String) : String := lines (runtime fallback)

/-- The start of the file of a language. -/
def tableHeader (language : String) : String :=
  lines [
    s!"// Generated {language} localization file. Do not edit.",
    "",
    "fn " ++ tableFunction language ++
      "() -> ::std::collections::HashMap<&'static str, &'static str> \x7b",
    "    let mut localizations = ::std::collections::HashMap::new();",
    ""]

/-- An entry of a table. -/
def tableEntry (key text : String) : String :=
  "    localizations.insert(" ++ Literal.Rust.quoted key ++ ", " ++ Literal.Rust.text text ++ ");\n"

/-- The end of the file of a language. -/
def tableClosing : String := lines ["    localizations", "\x7d"]

/-- The function of a single text. -/
def accessor (a : Address) (count : UInt64) : String :=
  let typed := (parameters count).map (· ++ ": &str")
  lines [
    "pub fn " ++ identifier a.snakeCase ++ "(" ++ ", ".intercalate typed ++ ") -> String \x7b",
    "    get_string(" ++ Literal.Rust.quoted a.key ++ ", &[" ++
      ", ".intercalate (parameters count) ++ "])",
    "\x7d",
    ""]

/-- The look-up of the element `i` of a list. -/
def elementLookup (a : Address) (i : Nat) : String :=
  "        get_string(" ++ Literal.Rust.quoted (elementKey a.key i) ++ ", &[]),"

/-- The function of a list of texts. -/
def listAccessor (a : Address) (length : Nat) : String :=
  lines (
    ["pub fn " ++ identifier a.snakeCase ++ "() -> Vec<String> \x7b", "    vec!["] ++
    (List.range length).map (elementLookup a) ++
    ["    ]", "\x7d", ""])

/-- The name of the struct of the records of a list. -/
def typeName (a : Address) : String := identifier a.typeName

/-- The struct of the records of a list. -/
def typeDeclaration (name : String) : String :=
  lines [
    "#[derive(Debug, Clone, Copy, PartialEq, Eq)]",
    "pub struct " ++ name ++ " \x7b",
    "    pub index: usize,",
    "\x7d",
    ""]

/-- The expression for the key of a field, with the place of the record put in. -/
def fieldLookup (a : Address) (field : String) : String :=
  "&format!(\"\x7b\x7d.\x7b\x7d.\x7b\x7d\", " ++ Literal.Rust.quoted a.key ++
    ", self.index, " ++ Literal.Rust.quoted field ++ ")"

/-- The method of a field. -/
def fieldAccessor (a : Address) (field : String) : String :=
  lines [
    "impl " ++ typeName a ++ " \x7b",
    "    pub fn " ++ identifier (Naming.snakeCase [field]) ++ "(&self) -> String \x7b",
    "        get_string(" ++ fieldLookup a field ++ ", &[])",
    "    \x7d",
    "\x7d",
    ""]

/-- The inclusion of a table. -/
def tableInclude (language : String) : String := "include!(\"" ++ tableFile language ++ "\");"

/-- The entry of a table in the table of tables. -/
def tableOfTablesEntry (language : String) : String :=
  "            (" ++ Literal.Rust.quoted language ++ ", " ++ tableFunction language ++ "()),"

/-- The inclusions of all tables, and the table of tables. -/
def epilogue (languages : List String) : String :=
  lines (
    languages.map tableInclude ++
    ["",
      "static LOCALIZATIONS: LazyLock<HashMap<&'static str, HashMap<&'static str, &'static str>>> =",
      "    LazyLock::new(|| \x7b",
      "        HashMap::from(["] ++
    languages.map tableOfTablesEntry ++
    ["        ])", "    \x7d);"])

/-- The spelling of Rust sources. -/
def dialect : Dialect where
  target := .rust
  prologue _ fallback := prologue fallback
  tableHeader _ language := tableHeader language
  tableEntry := tableEntry
  tableClosing := tableClosing
  accessor _ := accessor
  listAccessor _ := listAccessor
  typeName := typeName
  typeDeclaration := typeDeclaration
  fieldAccessor := fieldAccessor
  epilogue := epilogue
  tableFile := tableFile
  bindingFile := "localizations.rs"

end Phrasebook.Rust
