import Phrasebook.Proofs.Binding.Declarations
import Phrasebook.Proofs.Literal.SingleLine

/-!
# The names that the runtime of a binding declares

Accessors stand in one file with a runtime that has functions and variables of its own.  Which names
these are is read off the text (`Target.topLevelNames`): a line declares a name if it begins at the
margin with one of a few openers of the target, and the name is what follows.

`Target.topLevelNames_runtime` and `Target.topLevelNames_epilogue` say what is found in the runtime
of every fallback language and in the epilogue of every list of languages.
-/

namespace Phrasebook

namespace Target

open Unicode

/-! ## Reading names -/

/-- What a line that declares a function, a variable or a type at the margin begins with. -/
def openers : Target → List String
  | .js => ["export function ", "function ", "export class ", "let ", "export const ", "const ",
      "import \x7b "]
  | .kotlin => ["fun ", "private fun ", "class ", "var ", "const val ", "private val "]
  | .rust => ["pub fn ", "fn ", "pub struct ", "static ", "pub const "]

/-- Whether `c` may stand in a name. -/
def isNameChar (c : Char) : Bool := c == '_' || isAsciiAlphanumeric c || 128 ≤ c.toNat

/-- The name that a line declares at the margin. -/
def declaredName? (target : Target) (line : List Char) : Option String :=
  target.openers.findSome? fun o =>
    if o.toList <+: line then
      some (String.ofList ((line.drop o.toList.length).takeWhile isNameChar))
    else none

/-- The names that a text declares at the margin, line by line. -/
def topLevelNames (target : Target) (text : String) : List String :=
  (text.toList.splitOn '\n').filterMap target.declaredName?

/-- The names that the runtime of a binding declares. -/
def runtimeNames : Target → List String
  | .js => ["currentLanguage", "fallbackLanguage", "setCurrentLanguage", "getCurrentLanguage",
      "lookup", "getString"]
  | .kotlin => ["currentLanguage", "fallbackLanguage", "placeholderPattern", "lookup", "getString"]
  | .rust => ["CURRENT_LANGUAGE", "FALLBACK_LANGUAGE", "set_current_language", "current_language",
      "lookup", "get_string"]

/-- The names that the epilogue of a binding declares, for tables of these languages. -/
def epilogueNames (target : Target) (languages : List String) : List String :=
  match target with
  | .js => languages.map Js.tableFunction ++ ["localizations"]
  | .kotlin => ["localizations"]
  | .rust => ["LOCALIZATIONS"]

/-! ## Lines -/

lemma toList_lines (ls : List String) :
    (Spelling.lines ls).toList = ['\n'].intercalate (ls.map String.toList ++ [[]]) := by
  induction ls with
  | nil => rfl
  | cons l rest ih =>
    rw [Spelling.lines_cons, String.toList_append, String.toList_append, ih, List.map_cons,
      List.cons_append, List.intercalate_cons_of_ne_nil (by simp)]
    rfl

/-- The lines `ls` are not broken, and `names` are what they declare. -/
structure Reads (target : Target) (ls names : List String) : Prop where
  unbroken : ∀ l ∈ ls, '\n' ∉ l.toList
  names_eq : (ls.map String.toList).filterMap target.declaredName? = names

namespace Reads

variable {target : Target} {ls ls' names names' : List String} {l name : String}

lemma append (h : target.Reads ls names) (h' : target.Reads ls' names') :
    target.Reads (ls ++ ls') (names ++ names') where
  unbroken := List.forall_mem_append.2 ⟨h.unbroken, h'.unbroken⟩
  names_eq := by rw [List.map_append, List.filterMap_append, h.names_eq, h'.names_eq]

lemma cons (hl : '\n' ∉ l.toList) (hname : target.declaredName? l.toList = some name)
    (h : target.Reads ls names) : target.Reads (l :: ls) (name :: names) where
  unbroken := List.forall_mem_cons.2 ⟨hl, h.unbroken⟩
  names_eq := by rw [List.map_cons, List.filterMap_cons_some hname, h.names_eq]

lemma map {f g : String → String} (hf : ∀ l, '\n' ∉ (f l).toList)
    (hg : ∀ l, target.declaredName? (f l).toList = some (g l)) (ls : List String) :
    target.Reads (ls.map f) (ls.map g) := by
  induction ls with
  | nil => exact ⟨nofun, rfl⟩
  | cons l rest ih => exact cons (hf l) (hg l) ih

lemma map_nil {f : String → String} (hf : ∀ l, '\n' ∉ (f l).toList)
    (hg : ∀ l, target.declaredName? (f l).toList = none) (ls : List String) :
    target.Reads (ls.map f) [] where
  unbroken := List.forall_mem_map.2 fun l _ => hf l
  names_eq := by
    rw [List.map_map, List.filterMap_eq_nil_iff]
    exact List.forall_mem_map.2 fun l _ => hg l

/-- Reading lines as lists of characters: to evaluate `String.toList` is slow. -/
lemma of_chars {css : List (List Char)} (h : ls.map String.toList = css)
    (hfeed : ∀ cs ∈ css, '\n' ∉ cs) (hnames : css.filterMap target.declaredName? = names) :
    target.Reads ls names where
  unbroken := fun _ hl => hfeed _ (h ▸ List.mem_map_of_mem hl)
  names_eq := h ▸ hnames

/-- The names of a text of lines are those of the lines. -/
lemma topLevelNames_eq (h : target.Reads ls names) :
    target.topLevelNames (Spelling.lines ls) = names := by
  have hsplit : (Spelling.lines ls).toList.splitOn '\n' = ls.map String.toList ++ [[]] := by
    rw [toList_lines]
    refine List.splitOn_intercalate _ ?_ (by simp)
    intro l hl
    rcases List.mem_append.1 hl with hl | hl
    · obtain ⟨s, hs, rfl⟩ := List.mem_map.1 hl
      exact h.unbroken s hs
    · obtain rfl := List.mem_singleton.1 hl
      exact List.not_mem_nil
  have hempty : target.declaredName? [] = none := by cases target <;> decide
  rw [topLevelNames, hsplit, List.filterMap_append, h.names_eq, List.filterMap_cons_none hempty,
    List.filterMap_nil, List.append_nil]

end Reads

lemma map_toList_cons {cs : List Char} {ls : List String} {css : List (List Char)}
    (h : ls.map String.toList = css) : (String.ofList cs :: ls).map String.toList = cs :: css := by
  rw [List.map_cons, String.toList_ofList, h]

/-! ## Single lines -/

/-- No opener is the beginning of another one. -/
lemma eq_of_openers_prefix (target : Target) :
    ∀ o ∈ target.openers, ∀ o' ∈ target.openers, o.toList <+: o'.toList → o = o' := by
  cases target <;> decide

/-- What follows an opener is a name. -/
lemma declaredName?_opener {target : Target} {o name tail : String} {c : Char}
    (ho : o ∈ target.openers) (hname : ∀ d ∈ name.toList, isNameChar d)
    (htail : tail.toList.head? = some c) (hc : isNameChar c = false) :
    target.declaredName? (o ++ (name ++ tail)).toList = some name := by
  have hself : o.toList <+: (o ++ (name ++ tail)).toList := by
    rw [String.toList_append]
    exact List.prefix_append ..
  -- two openers of one line would be prefixes of one another
  have honly : ∀ o' ∈ target.openers, o'.toList <+: (o ++ (name ++ tail)).toList → o' = o := by
    intro o' ho' h
    rcases List.prefix_or_prefix_of_prefix h hself with h | h
    · exact target.eq_of_openers_prefix o' ho' o ho h
    · exact (target.eq_of_openers_prefix o ho o' ho' h).symm
  have hrest : ((o ++ (name ++ tail)).toList.drop o.toList.length).takeWhile isNameChar =
      name.toList := by
    obtain ⟨rest, hrest⟩ : ∃ rest, tail.toList = c :: rest := List.head?_eq_some_iff.1 htail
    rw [String.toList_append, List.drop_left, String.toList_append, hrest,
      List.takeWhile_append_of_pos hname, List.takeWhile_cons_of_neg (by simp [hc]),
      List.append_nil]
  cases h : target.declaredName? (o ++ (name ++ tail)).toList with
  | none =>
    have hnone := List.findSome?_eq_none_iff.1 h o ho
    rw [if_pos hself] at hnone
    exact nomatch hnone
  | some found =>
    obtain ⟨o', ho', hfound⟩ := List.exists_of_findSome?_eq_some h
    split at hfound
    · rename_i hprefix
      obtain rfl := honly o' ho' hprefix
      rw [← hfound, hrest, String.ofList_toList]
    · exact nomatch hfound

/-- A line that begins with another character than every opener declares nothing. -/
lemma declaredName?_eq_none {target : Target} {p : String} (hp : p.toList ≠ [])
    (h : ∀ o ∈ target.openers, o.toList ≠ [] ∧ o.toList.head? ≠ p.toList.head?) (rest : String) :
    target.declaredName? (p ++ rest).toList = none := by
  rw [declaredName?, List.findSome?_eq_none_iff]
  intro o ho
  obtain ⟨hne, hhead⟩ := h o ho
  rw [if_neg]
  rintro ⟨more, hmore⟩
  refine hhead ?_
  rw [String.toList_append] at hmore
  rw [← List.head?_append_of_ne_nil _ hne, hmore, List.head?_append_of_ne_nil _ hp]

/-! ## The runtime

One line of a runtime has the fallback language in it; the other lines can be read as they stand. -/

lemma reads_runtime_js (fallback : String) :
    Reads .js (Js.runtime fallback) (runtimeNames .js) := by
  have hline : "export const fallbackLanguage = " ++ Literal.Js.quoted fallback ++ ";" =
      "export const " ++
        ("fallbackLanguage" ++ (" = " ++ (Literal.Js.quoted fallback ++ ";"))) := by
    simp only [← String.append_assoc]
    rfl
  have hsplit : Js.runtime fallback = (Js.runtime "").take 3 ++
      ("export const " ++ ("fallbackLanguage" ++ (" = " ++ (Literal.Js.quoted fallback ++ ";")))) ::
        (Js.runtime "").drop 4 := by
    rw [← hline]
    rfl
  have hbefore : Reads .js ((Js.runtime "").take 3) ["currentLanguage"] :=
    ⟨by decide, by decide⟩
  have hafter : Reads .js ((Js.runtime "").drop 4)
      ["setCurrentLanguage", "getCurrentLanguage", "lookup", "getString"] := by
    apply Reads.of_chars
    · simp only [Js.runtime, List.drop_succ_cons, List.drop_zero]
      repeat apply map_toList_cons
      rfl
    · decide
    · decide
  rw [hsplit]
  refine hbefore.append (hafter.cons ?_ (declaredName?_opener (by decide)
    (List.all_eq_true.1 (by decide)) (by simp : _ = some ' ') (by decide)))
  simp [String.toList_append, Literal.Js.lineFeed_notMem_quoted fallback]

lemma reads_runtime_kotlin (fallback : String) :
    Reads .kotlin (Kotlin.runtime fallback) (runtimeNames .kotlin) := by
  have hline : "const val fallbackLanguage = " ++ Literal.Kotlin.quoted fallback =
      "const val " ++ ("fallbackLanguage" ++ (" = " ++ Literal.Kotlin.quoted fallback)) := by
    simp only [← String.append_assoc]
    rfl
  have hsplit : Kotlin.runtime fallback = (Kotlin.runtime "").take 6 ++
      ("const val " ++ ("fallbackLanguage" ++ (" = " ++ Literal.Kotlin.quoted fallback))) ::
        (Kotlin.runtime "").drop 7 := by
    rw [← hline]
    rfl
  have hbefore : Reads .kotlin ((Kotlin.runtime "").take 6) ["currentLanguage"] := by
    apply Reads.of_chars
    · simp only [Kotlin.runtime, List.take_succ_cons, List.take_zero]
      repeat apply map_toList_cons
      rfl
    · decide
    · decide
  have hafter : Reads .kotlin ((Kotlin.runtime "").drop 7)
      ["placeholderPattern", "lookup", "getString"] := by
    apply Reads.of_chars
    · simp only [Kotlin.runtime, List.drop_succ_cons, List.drop_zero]
      repeat apply map_toList_cons
      rfl
    · decide
    · decide
  rw [hsplit]
  refine hbefore.append (hafter.cons ?_ (declaredName?_opener (by decide)
    (List.all_eq_true.1 (by decide)) (by simp : _ = some ' ') (by decide)))
  simp [String.toList_append, Literal.Kotlin.lineFeed_notMem_quoted fallback]

lemma reads_runtime_rust (fallback : String) :
    Reads .rust (Rust.runtime fallback) (runtimeNames .rust) := by
  have hline : "pub const FALLBACK_LANGUAGE: &str = " ++ Literal.Rust.quoted fallback ++ ";" =
      "pub const " ++
        ("FALLBACK_LANGUAGE" ++ (": &str = " ++ (Literal.Rust.quoted fallback ++ ";"))) := by
    simp only [← String.append_assoc]
    rfl
  have hsplit : Rust.runtime fallback = (Rust.runtime "").take 9 ++
      ("pub const " ++
        ("FALLBACK_LANGUAGE" ++ (": &str = " ++ (Literal.Rust.quoted fallback ++ ";")))) ::
        (Rust.runtime "").drop 10 := by
    rw [← hline]
    rfl
  have hbefore : Reads .rust ((Rust.runtime "").take 9) ["CURRENT_LANGUAGE"] := by
    apply Reads.of_chars
    · simp only [Rust.runtime, List.take_succ_cons, List.take_zero]
      repeat apply map_toList_cons
      rfl
    · decide
    · decide
  have hafter : Reads .rust ((Rust.runtime "").drop 10)
      ["set_current_language", "current_language", "lookup", "get_string"] := by
    apply Reads.of_chars
    · simp only [Rust.runtime, List.drop_succ_cons, List.drop_zero]
      repeat apply map_toList_cons
      rfl
    · decide
    · decide
  rw [hsplit]
  refine hbefore.append (hafter.cons ?_ (declaredName?_opener (by decide)
    (List.all_eq_true.1 (by decide)) (by simp : _ = some ':') (by decide)))
  simp [String.toList_append, Literal.Rust.lineFeed_notMem_quoted fallback]

/-- The names that are found in the runtime of a binding. -/
lemma topLevelNames_runtime (target : Target) (fallback : String) :
    target.topLevelNames (Spelling.lines (target.runtime fallback)) = target.runtimeNames := by
  refine Reads.topLevelNames_eq ?_
  cases target with
  | js => exact reads_runtime_js fallback
  | kotlin => exact reads_runtime_kotlin fallback
  | rust => exact reads_runtime_rust fallback

/-! ## Names of tables -/

lemma isNameChar_languageIdentifier {language : String} {c : Char}
    (h : c ∈ (Naming.languageIdentifier language).toList) : c = '_' ∨ isAsciiAlphanumeric c := by
  rw [Naming.languageIdentifier, String.toList_map] at h
  obtain ⟨d, -, rfl⟩ := List.mem_map.1 h
  split
  · rename_i hd
    exact .inr hd
  · exact .inl rfl

/-- What holds of a character and of all small ASCII letters holds of it in lower case. -/
lemma asciiLower_induction (p : Char → Prop) {c : Char} (hself : p c)
    (hsmall : ∀ n ≤ 90, 65 ≤ n → p (Char.ofNat (n + 32))) : p (asciiLower c) := by
  unfold asciiLower
  split
  · rename_i hcapital
    simp only [Bool.and_eq_true, decide_eq_true_eq] at hcapital
    exact hsmall c.toNat hcapital.2 hcapital.1
  · exact hself

lemma isNameChar_asciiLower {c : Char} (h : isNameChar c) : isNameChar (asciiLower c) :=
  asciiLower_induction (isNameChar ·) h (by decide)

lemma isNameChar_tableFunction (target : Target) (language : String) :
    ∀ c ∈ (target.tableFunction language).toList, isNameChar c := by
  have hmark : ∀ c ∈ "localizations_".toList, isNameChar c :=
    List.all_eq_true.1 (by decide)
  have hlanguage : ∀ c ∈ (Naming.languageIdentifier language).toList, isNameChar c := by
    intro c hc
    rcases isNameChar_languageIdentifier hc with rfl | hc
    · decide
    · simp [isNameChar, hc]
  have happend : ∀ c ∈ ("localizations_" ++ Naming.languageIdentifier language).toList,
      isNameChar c := by
    intro c hc
    rw [String.toList_append, List.mem_append] at hc
    exact hc.elim (hmark c) (hlanguage c)
  cases target with
  | js => exact happend
  | kotlin => exact happend
  | rust =>
    intro c hc
    rw [tableFunction, Rust.tableFunction, String.toList_append, List.mem_append] at hc
    rcases hc with hc | hc
    · exact hmark c hc
    · rw [asciiLowercase, String.toList_map] at hc
      obtain ⟨d, hd, rfl⟩ := List.mem_map.1 hc
      exact isNameChar_asciiLower (hlanguage d hd)

lemma lineFeed_notMem_tableFunction (target : Target) (language : String) :
    '\n' ∉ (target.tableFunction language).toList := fun h =>
  absurd (target.isNameChar_tableFunction language _ h) (by decide)

/-! ## The epilogue -/

lemma reads_tableImport (languages : List String) :
    Reads .js (languages.map Js.tableImport) (languages.map Js.tableFunction) := by
  have hline : ∀ l, Js.tableImport l = "import \x7b " ++
      (Js.tableFunction l ++ (" \x7d from \"./" ++ (Js.tableFunction l ++ ".js\";"))) := by
    intro l
    simp only [Js.tableImport, String.append_assoc]
  refine Reads.map (fun l => ?_) (fun l => ?_) languages
  · have hfeed := lineFeed_notMem_tableFunction .js l
    rw [tableFunction] at hfeed
    simp [hline, String.toList_append, hfeed]
  · have hname := isNameChar_tableFunction .js l
    rw [tableFunction] at hname
    rw [hline]
    exact declaredName?_opener (by decide) hname (by simp : _ = some ' ') (by decide)

lemma reads_tableInclude (languages : List String) :
    Reads .rust (languages.map Rust.tableInclude) [] := by
  have hline : ∀ l, Rust.tableInclude l = "include!(\"" ++
      (Rust.tableFunction l ++ (".rs" ++ "\");")) := by
    intro l
    simp only [Rust.tableInclude, Rust.tableFile, String.append_assoc]
  refine Reads.map_nil (fun l => ?_) (fun l => ?_) languages
  · have hfeed := lineFeed_notMem_tableFunction .rust l
    rw [tableFunction] at hfeed
    simp [hline, String.toList_append, hfeed]
  · rw [hline]
    exact declaredName?_eq_none (by decide) (by decide) _

/-- The entry of a table, if it is indented, declares nothing. -/
lemma reads_entry {target : Target} {f : String → String} {p q r : String}
    {quoted : String → String}
    (hline : ∀ l, f l = p ++ quoted l ++ q ++ target.tableFunction l ++ r)
    (hquoted : ∀ l, '\n' ∉ (quoted l).toList) (hp : p.toList ≠ [])
    (hindented : ∀ o ∈ target.openers, o.toList ≠ [] ∧ o.toList.head? ≠ p.toList.head?)
    (hfeed : '\n' ∉ p.toList ++ q.toList ++ r.toList) (languages : List String) :
    target.Reads (languages.map f) [] := by
  have htable := target.lineFeed_notMem_tableFunction
  refine Reads.map_nil (fun l => ?_) (fun l => ?_) languages
  · simp only [List.mem_append, not_or] at hfeed
    simp [hline, String.toList_append, hfeed, htable, hquoted]
  · rw [hline, String.append_assoc, String.append_assoc, String.append_assoc]
    exact declaredName?_eq_none hp hindented _

/-- The names that are found in the epilogue of a binding. -/
lemma topLevelNames_epilogue (target : Target) (languages : List String) :
    target.topLevelNames (target.epilogue languages) = target.epilogueNames languages := by
  cases target with
  | js =>
    have hown : Reads .js ["", "const localizations = (() => \x7b",
        "    const localizations = Object.create(null);"] ["localizations"] := by
      apply Reads.of_chars
      · repeat apply map_toList_cons
        rfl
      · decide
      · decide
    have hentries : Reads .js (languages.map Js.tableOfTablesEntry) [] :=
      reads_entry (fun _ => rfl) Literal.Js.lineFeed_notMem_quoted (by decide)
        (by decide) (by decide) languages
    have hend : Reads .js ["    return localizations;", "\x7d)();"] [] :=
      ⟨by decide, by decide⟩
    have hall := (((reads_tableImport languages).append hown).append hentries).append hend
    refine hall.topLevelNames_eq.trans ?_
    rw [List.append_nil, List.append_nil]
    rfl
  | kotlin =>
    have hown : Reads .kotlin
        ["private val localizations: Map<String, Map<String, String>> by lazy \x7b",
          "    val localizations = mutableMapOf<String, Map<String, String>>()"]
        ["localizations"] := by
      apply Reads.of_chars
      · repeat apply map_toList_cons
        rfl
      · decide
      · decide
    have hentries : Reads .kotlin (languages.map Kotlin.tableOfTablesEntry) [] :=
      reads_entry (fun _ => rfl) Literal.Kotlin.lineFeed_notMem_quoted (by decide)
        (by decide) (by decide) languages
    have hend : Reads .kotlin ["    localizations", "\x7d"] [] :=
      ⟨by decide, by decide⟩
    exact ((hown.append hentries).append hend).topLevelNames_eq
  | rust =>
    have hown : Reads .rust
        ["",
    "static LOCALIZATIONS: LazyLock<HashMap<&'static str, HashMap<&'static str, &'static str>>> =",
          "    LazyLock::new(|| \x7b", "        HashMap::from(["] ["LOCALIZATIONS"] := by
      apply Reads.of_chars
      · repeat apply map_toList_cons
        rfl
      · decide
      · decide
    have hentries : Reads .rust (languages.map Rust.tableOfTablesEntry) [] :=
      reads_entry (fun _ => rfl) Literal.Rust.lineFeed_notMem_quoted (by decide)
        (by decide) (by decide) languages
    have hend : Reads .rust ["        ])", "    \x7d);"] [] :=
      ⟨by decide, by decide⟩
    exact ((((reads_tableInclude languages).append hown).append hentries).append
      hend).topLevelNames_eq

end Target

end Phrasebook
