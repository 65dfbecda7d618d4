import Mathlib.Data.List.Basic
import Phrasebook.Files.FileTree

/-!
# Writing files

A text that is written changes what is at one place (`FileTree.write_eq_ok_iff`).  No directory
comes or goes, so every path leads to where it led before, and the text can be read again
(`FileTree.read_of_write`).

Files are written under a name in a directory.  The place of such a file ends with its name
(`FileTree.getLast?_parts_place?_join`), so files with different names have different places, also
in different directories and however their paths are spelled.
-/

namespace Phrasebook

/-! ## Names in paths -/

namespace Path

/-- A name that a file can have: the only part of its path, which leads to something new. -/
structure IsName (name : String) : Prop where
  /-- It has no slash. -/
  slash_notMem : '/' ∉ name.toList
  /-- It does not stand for nothing. -/
  not_isIdle : ¬isIdle name
  /-- It does not lead up. -/
  ne_up : name ≠ ".."

/-- A name that is not refused for its characters or its length. -/
structure IsFileName (name : String) : Prop extends IsName name where
  /-- It has no null character. -/
  null_notMem : '\x00' ∉ name.toList
  /-- It is not too long. -/
  short : name.utf8ByteSize ≤ 255

instance (name : String) : Decidable (IsFileName name) :=
  decidable_of_iff ((('/' ∉ name.toList ∧ ¬isIdle name ∧ name ≠ "..") ∧ '\x00' ∉ name.toList) ∧
      name.utf8ByteSize ≤ 255)
    ⟨fun ⟨⟨⟨hslash, hidle, hup⟩, hnull⟩, hshort⟩ => ⟨⟨hslash, hidle, hup⟩, hnull, hshort⟩,
      fun h => ⟨⟨⟨h.slash_notMem, h.not_isIdle, h.ne_up⟩, h.null_notMem⟩, h.short⟩⟩

lemma IsName.ne_empty {name : String} (h : IsName name) : name ≠ "" := by
  rintro rfl
  exact h.not_isIdle rfl

lemma partsOf_append_slash (cs ds : List Char) :
    partsOf (cs ++ '/' :: ds) = partsOf cs ++ partsOf ds := by
  induction cs with
  | nil => rfl
  | cons c rest ih =>
    rw [List.cons_append, partsOf, partsOf, ih]
    split
    · rfl
    · cases hrest : partsOf rest with
      | nil =>
        cases rest with
        | nil => exact nomatch hrest
        | cons d more =>
          rw [partsOf] at hrest
          split at hrest
          · exact nomatch hrest
          · split at hrest <;> exact nomatch hrest
      | cons p more => rfl

lemma partsOf_eq_singleton {cs : List Char} (h : '/' ∉ cs) : partsOf cs = [cs] := by
  induction cs with
  | nil => rfl
  | cons c rest ih =>
    rw [List.mem_cons, not_or] at h
    rw [partsOf, if_neg (Ne.symm h.1), ih h.2]

lemma parts_append_slash (a b : String) : parts (a ++ "/" ++ b) = parts a ++ parts b := by
  rw [parts, String.toList_append, String.toList_append, List.append_assoc]
  exact (congrArg (List.map _) (partsOf_append_slash _ _)).trans List.map_append

lemma parts_eq_singleton {name : String} (h : '/' ∉ name.toList) : parts name = [name] := by
  rw [parts, partsOf_eq_singleton h, List.map_singleton, String.ofList_toList]

lemma endsWith_iff {a b : String} : a.endsWith b ↔ ∃ front, front ++ b = a := by
  have hslice : a.endsWith b = a.toSlice.endsWith b := rfl
  rw [hslice, String.Slice.Pattern.Model.endsWith_iff,
    String.Slice.Pattern.Model.ForwardStringSearcher.revMatchesAt_iff_splits]
  simp

lemma not_startsWith_slash {name : String} (h : '/' ∉ name.toList) : ¬name.startsWith "/" := by
  rw [String.startsWith_string_iff]
  exact fun hstart => h (hstart.subset (List.mem_singleton.2 rfl))

/-- A name is appended behind a slash. -/
lemma join_eq {base name : String} (hbase : '/' ∉ base.toList) (hne : base ≠ "")
    (h : '/' ∉ name.toList) : join base name = base ++ "/" ++ name := by
  have hslash : ¬base.endsWith "/" := by
    rw [endsWith_iff]
    rintro ⟨front, rfl⟩
    exact hbase (by rw [String.toList_append]; exact List.mem_append_right _ List.mem_cons_self)
  rw [join, if_neg (not_startsWith_slash h), if_neg]
  simpa [hslash] using hne

/-- The path of a file in a directory has the name of the file for its last part.  The parts in
front of it are those of the directory, but for an empty one at their end. -/
lemma parts_join {base name : String} (h : '/' ∉ name.toList) (hbase : base ≠ "") :
    ∃ front, parts (join base name) = front ++ [name] ∧
      (parts base = front ∨ parts base = front ++ [""]) := by
  have hnonempty : base.isEmpty = false := by
    rw [← Bool.not_eq_true, String.isEmpty_iff]
    exact hbase
  rw [join, if_neg (not_startsWith_slash h), hnonempty, Bool.false_or]
  split
  · rename_i hslash
    obtain ⟨front, rfl⟩ := endsWith_iff.1 hslash
    refine ⟨parts front, by rw [parts_append_slash, parts_eq_singleton h], .inr ?_⟩
    rw [← String.append_empty (s := front ++ "/"), parts_append_slash]
    rfl
  · exact ⟨parts base, by rw [parts_append_slash, parts_eq_singleton h], .inl rfl⟩

end Path

/-! ## Texts as bytes -/

lemma ByteArray.toList_loop (bytes : ByteArray) (i : Nat) (front : List UInt8) :
    ByteArray.toList.loop bytes i front = front.reverse ++ bytes.data.toList.drop i := by
  fun_induction ByteArray.toList.loop bytes i front with
  | case1 i front hi ih =>
    have hi' : i < bytes.data.toList.length := hi
    have hget : bytes.get! i = bytes.data.toList[i] := getElem!_pos bytes.data i hi
    rw [ih, List.drop_eq_getElem_cons hi', List.reverse_cons, hget, List.append_assoc,
      List.singleton_append]
  | case2 i front hi =>
    have hi' : bytes.data.toList.length ≤ i := Nat.le_of_not_lt hi
    rw [List.drop_eq_nil_of_le hi', List.append_nil]

lemma toList_toByteArray (bytes : ByteArray) : bytes.toList = bytes.data.toList := by
  rw [ByteArray.toList, ByteArray.toList_loop]
  rfl

/-- A text is what is read from its bytes, and from no others. -/
lemma fromUTF8?_eq_some_iff {bytes : List UInt8} {text : String} :
    String.fromUTF8? ⟨bytes.toArray⟩ = some text ↔ bytes = text.toUTF8.toList := by
  rw [toList_toByteArray]
  constructor
  · intro h
    rw [String.fromUTF8?] at h
    split at h
    · cases h
      rfl
    · exact nomatch h
  · rintro rfl
    exact dif_pos text.isValidUTF8

namespace FileTree

variable {t t' : FileTree} {names names' : List String} {path text : String}

/-! ## Following a path -/

lemma directory_of_walk_cons {part : String} {rest : List String}
    (h : t.walk names (part :: rest) = .ok names') : t.item? names = some .directory := by
  rw [walk] at h
  split at h
  · exact nomatch h
  · exact nomatch h
  · assumption

lemma walk_cons_of_directory (h : t.item? names = some .directory) (part : String)
    (rest : List String) :
    t.walk names (part :: rest) =
      if Path.isIdle part then t.walk names rest
      else if part = ".." then t.walk (parent names) rest
      else if 255 < part.utf8ByteSize then .error .nameTooLong
      else t.walk (names ++ [part]) rest := by
  rw [walk, h]

lemma walk_append (names front back : List String) :
    t.walk names (front ++ back) = t.walk names front >>= fun names' => t.walk names' back := by
  induction front generalizing names with
  | nil => rfl
  | cons part rest ih =>
    rw [List.cons_append, walk, walk]
    simp only [ih]
    split
    · rfl
    · rfl
    · split_ifs <;> rfl

lemma walk_append_eq_ok_iff {front back : List String} :
    t.walk names (front ++ back) = .ok names' ↔
      ∃ on, t.walk names front = .ok on ∧ t.walk on back = .ok names' := by
  rw [walk_append]
  cases t.walk names front with
  | error e => exact iff_of_false nofun fun ⟨_, h, _⟩ => nomatch h
  | ok on => exact ⟨fun h => ⟨on, rfl, h⟩, fun ⟨_, hon, h⟩ => by cases hon; exact h⟩

/-- A name leads from a directory to the place of this name in it. -/
lemma walk_singleton_eq_ok_iff {name : String} (hname : Path.IsName name)
    (h : t.item? names = some .directory) :
    t.walk names [name] = .ok names' ↔ names' = names ++ [name] ∧ name.utf8ByteSize ≤ 255 := by
  rw [walk_cons_of_directory h, if_neg hname.not_isIdle, if_neg hname.ne_up]
  split
  · exact iff_of_false nofun fun h => by omega
  · rw [walk, Except.ok.injEq, eq_comm, iff_self_and]
    omega

/-- An empty part leads nowhere else. -/
lemma eq_of_walk_empty (h : t.walk names [""] = .ok names') : names' = names := by
  have hidle : Path.isIdle "" := rfl
  rw [walk_cons_of_directory (directory_of_walk_cons h), if_pos hidle] at h
  exact (Except.ok.inj h).symm

lemma locate_eq_ok_iff : t.locate path = .ok names ↔
    path ≠ "" ∧ path.contains '\x00' = false ∧ path.utf8ByteSize < 4096 ∧
      t.walk [] (Path.parts path) = .ok names := by
  rw [locate]
  split_ifs with hempty hnull hlong
  · exact iff_of_false nofun fun h => h.1 (String.isEmpty_iff.1 hempty)
  · exact iff_of_false nofun fun h => Bool.false_ne_true (h.2.1.symm.trans hnull)
  · exact iff_of_false nofun fun h => Nat.not_lt.2 hlong h.2.2.1
  · rw [String.isEmpty_iff] at hempty
    rw [Bool.not_eq_true] at hnull
    rw [Nat.not_le] at hlong
    exact ⟨fun h => ⟨hempty, hnull, hlong, h⟩, fun h => h.2.2.2⟩

lemma isDirectory_iff : t.isDirectory path ↔
    ∃ names, t.locate path = .ok names ∧ t.item? names = some .directory := by
  rw [isDirectory]
  cases t.locate path with
  | error e => exact iff_of_false nofun fun ⟨_, h, _⟩ => nomatch h
  | ok names => simp

/-- The path of a file in a directory leads to the place of its name in this directory, unless it is
too long or has a null character. -/
lemma locate_join_eq_ok_iff {directory name : String} {on : List String}
    (hname : Path.IsName name) (hon : t.locate directory = .ok on)
    (hdirectory : t.item? on = some .directory) :
    t.locate (Path.join directory name) = .ok names ↔
      names = on ++ [name] ∧ (Path.join directory name).contains '\x00' = false ∧
        (Path.join directory name).utf8ByteSize < 4096 ∧ name.utf8ByteSize ≤ 255 := by
  obtain ⟨hempty, -, -, hwalk⟩ := locate_eq_ok_iff.1 hon
  obtain ⟨front, hjoin, hfront⟩ := Path.parts_join hname.slash_notMem hempty
  have hne : Path.join directory name ≠ "" := by
    intro h
    rw [h] at hjoin
    have hlast := congrArg List.getLast? hjoin
    rw [List.getLast?_concat] at hlast
    exact hname.not_isIdle (by rw [← Option.some.inj hlast]; rfl)
  have hfront : t.walk [] front = .ok on := by
    rcases hfront with hfront | hfront
    · rwa [hfront] at hwalk
    · rw [hfront] at hwalk
      obtain ⟨on', hon', hwalk⟩ := walk_append_eq_ok_iff.1 hwalk
      rwa [eq_of_walk_empty hwalk]
  have hlast : t.walk [] (Path.parts (Path.join directory name)) = .ok names ↔
      names = on ++ [name] ∧ name.utf8ByteSize ≤ 255 := by
    rw [hjoin, walk_append_eq_ok_iff, hfront]
    simp only [Except.ok.injEq, exists_eq_left']
    exact walk_singleton_eq_ok_iff hname hdirectory
  rw [locate_eq_ok_iff, hlast, and_iff_right hne]
  exact ⟨fun ⟨hnull, hlong, heq, hname⟩ => ⟨heq, hnull, hlong, hname⟩,
    fun ⟨heq, hnull, hlong, hname⟩ => ⟨hnull, hlong, heq, hname⟩⟩

/-! ## Places -/

/-- The last name of a place is what stands behind its last slash. -/
lemma getLast?_parts_place {name : String} (h : '/' ∉ name.toList) (names : List String) :
    (Path.parts (place (names ++ [name]))).getLast? = some name := by
  rw [place]
  cases names with
  | nil =>
    rw [List.nil_append, String.intercalate_singleton, Path.parts_eq_singleton h]
    rfl
  | cons first rest =>
    rw [String.intercalate_append_of_ne_nil (List.cons_ne_nil _ _) (List.cons_ne_nil _ _),
      String.intercalate_singleton, Path.parts_append_slash, Path.parts_eq_singleton h,
      List.getLast?_concat]

/-! ## Writing -/

/-- The place that a path leads to. -/
def place? (t : FileTree) (path : String) : Option String := (t.locate path).toOption.map place

/-- Whether a path leads to a place where a file is or can be made. -/
def CanHold (t : FileTree) (path : String) : Prop :=
  ∃ names, t.locate path = .ok names ∧ t.item? names ≠ some .directory

/-- The tree with a text in the file at a place. -/
def put (t : FileTree) (k text : String) : FileTree :=
  ⟨t.items.insert k (.file text.toUTF8.toList)⟩

lemma leadsUp_eq_false (h : t.item? names ≠ some .directory) : leadsUp names = false := by
  rw [← Bool.not_eq_true]
  exact fun hup => h (if_pos hup)

lemma item?_eq (h : leadsUp names = false) : t.item? names = t.items.get? (place names) := by
  rw [item?, h]
  rfl

lemma place?_eq_some_iff {k : String} :
    t.place? path = some k ↔ ∃ names, t.locate path = .ok names ∧ place names = k := by
  rw [place?]
  cases t.locate path with
  | error e => exact iff_of_false nofun fun ⟨_, h, _⟩ => nomatch h
  | ok names => simp [Except.toOption]

lemma CanHold.exists_place (h : t.CanHold path) :
    ∃ k, t.place? path = some k ∧ t.items.get? k ≠ some .directory := by
  obtain ⟨names, hlocate, hitem⟩ := h
  refine ⟨place names, place?_eq_some_iff.2 ⟨names, hlocate, rfl⟩, ?_⟩
  rwa [← item?_eq (leadsUp_eq_false hitem)]

/-- The place of a file in a directory ends with the name of the file, whatever the directory. -/
lemma getLast?_parts_place?_join {directory name : String} (hname : Path.IsName name)
    (hdirectory : t.isDirectory directory) (h : t.CanHold (Path.join directory name)) :
    (t.place? (Path.join directory name)).bind (fun k => (Path.parts k).getLast?) = some name := by
  obtain ⟨on, hon, hitem⟩ := isDirectory_iff.1 hdirectory
  obtain ⟨names, hlocate, -⟩ := h
  obtain ⟨rfl, -⟩ := (locate_join_eq_ok_iff hname hon hitem).1 hlocate
  rw [place?_eq_some_iff.2 ⟨_, hlocate, rfl⟩]
  exact getLast?_parts_place hname.slash_notMem on

/-- A text is put where its path leads to, if a file can be there. -/
lemma write_eq_ok_iff : t.write path text = .ok t' ↔
    t.CanHold path ∧ ∃ k, t.place? path = some k ∧ t' = t.put k text := by
  rw [write, CanHold, place?]
  cases t.locate path with
  | error e => exact iff_of_false nofun fun ⟨⟨_, h, _⟩, _⟩ => nomatch h
  | ok names =>
    simp only [bind, Except.bind, Except.toOption, Option.map_some, Except.ok.injEq,
      Option.some.injEq, exists_eq_left']
    split
    · rename_i h
      exact iff_of_false nofun fun h' => h'.1 h
    · rename_i h
      exact ⟨fun heq => ⟨h, (Except.ok.inj heq).symm⟩, fun ⟨_, heq⟩ => congrArg _ heq.symm⟩

/-- Nothing changes at the other places. -/
lemma get?_items_put {k k' : String} (h : k' ≠ k) (text : String) :
    (t.put k text).items.get? k' = t.items.get? k' :=
  SortedMap.get?_insert_of_ne _ _ h

/-! ## Directories -/

/-- The directories of two trees are the same. -/
def SameDirectories (t t' : FileTree) : Prop :=
  ∀ names, t.item? names = some .directory ↔ t'.item? names = some .directory

namespace SameDirectories

lemma refl (t : FileTree) : t.SameDirectories t := fun _ => .rfl

lemma symm (h : t.SameDirectories t') : t'.SameDirectories t := fun names => (h names).symm

lemma trans {t'' : FileTree} (h : t.SameDirectories t') (h' : t'.SameDirectories t'') :
    t.SameDirectories t'' := fun names => (h names).trans (h' names)

lemma walk_eq_ok (h : t.SameDirectories t') {parts : List String}
    (hwalk : t.walk names parts = .ok names') : t'.walk names parts = .ok names' := by
  induction parts generalizing names with
  | nil => exact hwalk
  | cons part rest ih =>
    have hdirectory := directory_of_walk_cons hwalk
    rw [walk_cons_of_directory hdirectory] at hwalk
    rw [walk_cons_of_directory ((h names).1 hdirectory)]
    split_ifs at hwalk ⊢
    · exact ih hwalk
    · exact ih hwalk
    · exact ih hwalk

/-- A path leads to the same names in both trees. -/
lemma locate_eq_ok_iff (h : t.SameDirectories t') :
    t.locate path = .ok names ↔ t'.locate path = .ok names := by
  rw [FileTree.locate_eq_ok_iff, FileTree.locate_eq_ok_iff]
  exact and_congr_right fun _ => and_congr_right fun _ => and_congr_right fun _ =>
    ⟨h.walk_eq_ok, h.symm.walk_eq_ok⟩

lemma isDirectory_eq (h : t.SameDirectories t') : t'.isDirectory = t.isDirectory := by
  funext path
  rw [Bool.eq_iff_iff, isDirectory_iff, isDirectory_iff]
  exact exists_congr fun names => and_congr h.locate_eq_ok_iff.symm (h names).symm

lemma canHold_iff (h : t.SameDirectories t') : t.CanHold path ↔ t'.CanHold path :=
  exists_congr fun names => and_congr h.locate_eq_ok_iff (not_congr (h names))

lemma place?_eq (h : t.SameDirectories t') : t'.place? path = t.place? path := by
  refine Option.ext fun k => ?_
  rw [place?_eq_some_iff, place?_eq_some_iff]
  exact exists_congr fun names => and_congr_left' h.locate_eq_ok_iff.symm

end SameDirectories

/-- A file that is written does not come in the place of a directory. -/
lemma sameDirectories_of_write (h : t.write path text = .ok t') : t.SameDirectories t' := by
  obtain ⟨hhold, k, hk, rfl⟩ := write_eq_ok_iff.1 h
  obtain ⟨_, hk', hitem⟩ := hhold.exists_place
  cases hk.symm.trans hk'
  intro names
  cases hup : leadsUp names with
  | true => exact iff_of_true (if_pos hup) (if_pos hup)
  | false =>
    rw [item?_eq hup, item?_eq hup]
    by_cases hplace : place names = k
    · rw [hplace, put, SortedMap.get?_insert_self]
      exact iff_of_false hitem nofun
    · rw [get?_items_put hplace]

/-! ## Reading -/

/-- The text in a file. -/
def textOf : Option FileItem → Except FileError String
  | none => .error .notFound
  | some .directory => .error .isDirectory
  | some (.file bytes) =>
    match String.fromUTF8? ⟨bytes.toArray⟩ with
    | some text => .ok text
    | none => .error .invalidText

lemma textOf_eq_ok_iff {item : Option FileItem} :
    textOf item = .ok text ↔ item = some (.file text.toUTF8.toList) := by
  cases item with
  | none => exact iff_of_false nofun nofun
  | some item =>
    cases item with
    | directory => exact iff_of_false nofun nofun
    | file bytes =>
      rw [Option.some.injEq, FileItem.file.injEq, ← fromUTF8?_eq_some_iff, textOf]
      cases String.fromUTF8? ⟨bytes.toArray⟩ <;> simp

/-- What is read depends on the place that a path leads to. -/
lemma read_eq_textOf {k : String} (h : t.CanHold path) (hk : t.place? path = some k) :
    t.read path = textOf (t.items.get? k) := by
  obtain ⟨names, hlocate, hitem⟩ := h
  obtain ⟨names', hlocate', rfl⟩ := place?_eq_some_iff.1 hk
  cases hlocate.symm.trans hlocate'
  simp only [read, hlocate, bind, Except.bind]
  rw [← item?_eq (leadsUp_eq_false hitem)]
  cases t.item? names with
  | none => rfl
  | some item =>
    cases item with
    | directory => rfl
    | file bytes => rfl

/-- Paths that lead to one place lead to one text. -/
lemma read_congr {path' : String} (h : t.CanHold path) (h' : t.CanHold path')
    (hplace : t.place? path = t.place? path') : t.read path = t.read path' := by
  obtain ⟨k, hk, -⟩ := h.exists_place
  rw [read_eq_textOf h hk, read_eq_textOf h' (hplace.symm.trans hk)]

lemma SameDirectories.read_eq {k : String} (hsame : t.SameDirectories t') (h : t.CanHold path)
    (hk : t.place? path = some k) (hitem : t'.items.get? k = t.items.get? k) :
    t'.read path = t.read path := by
  rw [read_eq_textOf h hk, read_eq_textOf (hsame.canHold_iff.1 h) (hsame.place?_eq.trans hk), hitem]

/-- What has been written can be read. -/
lemma read_of_write (h : t.write path text = .ok t') : t'.read path = .ok text := by
  have hsame := sameDirectories_of_write h
  obtain ⟨hhold, k, hk, rfl⟩ := write_eq_ok_iff.1 h
  rw [read_eq_textOf (hsame.canHold_iff.1 hhold) (hsame.place?_eq.trans hk), textOf_eq_ok_iff]
  exact SortedMap.get?_insert_self ..

/-- A file that can be read is there. -/
lemma canHold_of_read (h : t.read path = .ok text) : t.CanHold path := by
  rw [read] at h
  cases hlocate : t.locate path with
  | error e =>
    rw [hlocate] at h
    exact nomatch h
  | ok names =>
    refine ⟨names, hlocate, fun hitem => ?_⟩
    simp only [hlocate, bind, Except.bind, hitem] at h
    exact nomatch h

/-- A text that is there already is put in the place of itself. -/
lemma write_eq_self (htext : t.read path = .ok text) : t.write path text = .ok t := by
  have h := canHold_of_read htext
  obtain ⟨k, hk, -⟩ := h.exists_place
  refine write_eq_ok_iff.2 ⟨h, k, hk, ?_⟩
  rw [read_eq_textOf h hk, textOf_eq_ok_iff] at htext
  refine congrArg mk (SortedMap.ext_get? fun k' => ?_)
  by_cases hk' : k' = k
  · rw [hk', htext, SortedMap.get?_insert_self]
  · rw [SortedMap.get?_insert_of_ne _ _ hk']

/-! ## An empty directory -/

/-- The tree with one directory, in which there is nothing. -/
def emptyDirectory (name : String) : FileTree := ⟨SortedMap.empty.insert name .directory⟩

section

variable {directory name : String}

lemma item?_emptyDirectory (h : Path.IsName directory) :
    (emptyDirectory directory).item? [directory] = some .directory := by
  have hup : leadsUp [directory] = false := by simpa [leadsUp] using h.ne_up
  rw [item?_eq hup, place, String.intercalate_singleton]
  exact SortedMap.get?_insert_self ..

lemma locate_emptyDirectory (h : Path.IsFileName directory) :
    (emptyDirectory directory).locate directory = .ok [directory] := by
  have hshort := h.short
  refine locate_eq_ok_iff.2 ⟨h.ne_empty, by simpa using h.null_notMem, by omega, ?_⟩
  have hroot : (emptyDirectory directory).item? [] = some .directory := if_pos rfl
  rw [Path.parts_eq_singleton h.slash_notMem]
  exact (walk_singleton_eq_ok_iff h.toIsName hroot).2 ⟨rfl, h.short⟩

lemma isDirectory_emptyDirectory (h : Path.IsFileName directory) :
    (emptyDirectory directory).isDirectory directory :=
  isDirectory_iff.2 ⟨_, locate_emptyDirectory h, item?_emptyDirectory h.toIsName⟩

/-- Any file can be made in an empty directory. -/
lemma canHold_emptyDirectory (h : Path.IsFileName directory) (hname : Path.IsFileName name) :
    (emptyDirectory directory).CanHold (Path.join directory name) := by
  have hjoin := Path.join_eq h.slash_notMem h.ne_empty hname.slash_notMem
  refine ⟨[directory] ++ [name], (locate_join_eq_ok_iff hname.toIsName
    (locate_emptyDirectory h) (item?_emptyDirectory h.toIsName)).2 ⟨rfl, ?_, ?_, hname.short⟩, ?_⟩
  · rw [hjoin]
    simpa using ⟨h.null_notMem, hname.null_notMem⟩
  · have hslash : "/".utf8ByteSize = 1 := rfl
    have hshort := h.short
    have hshort' := hname.short
    rw [hjoin, String.utf8ByteSize_append, String.utf8ByteSize_append]
    omega
  · have hup : leadsUp ([directory] ++ [name]) = false := by
      simpa [leadsUp] using fun heq => absurd heq h.ne_up
    have hslash : '/' ∈ (place ([directory] ++ [name])).toList := by
      simp [place]
    have hne : place ([directory] ++ [name]) ≠ directory := fun heq =>
      h.slash_notMem (heq ▸ hslash)
    rw [item?_eq hup, emptyDirectory, SortedMap.get?_insert_of_ne _ _ hne]
    exact nofun

/-- There is nothing to read in it. -/
lemma read_emptyDirectory_ne (directory path text : String) :
    (emptyDirectory directory).read path ≠ .ok text := by
  intro h
  have hhold := canHold_of_read h
  obtain ⟨k, hk, hitem⟩ := hhold.exists_place
  have hne : k ≠ directory := by
    rintro rfl
    exact hitem (SortedMap.get?_insert_self ..)
  rw [read_eq_textOf hhold hk, textOf_eq_ok_iff, emptyDirectory,
    SortedMap.get?_insert_of_ne _ _ hne] at h
  exact nomatch h

end

end FileTree

end Phrasebook
